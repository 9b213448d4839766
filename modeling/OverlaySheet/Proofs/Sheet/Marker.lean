import Mathlib.Data.Finset.Max
import OverlaySheet.Proofs.Sheet.Line
import OverlaySheet.Settings.Active

/-! Markers of accepted grammars: which of those in front of a line decides what the line is. -/

namespace OverlaySheet

open Text (Solid)

namespace MarkerName

/-- The line that a marker makes of the text behind it. -/
def line (rest : Text) : MarkerName → Line
  | declaration => .declaration rest
  | title => .title rest.trim
  | comment => .comment

end MarkerName

namespace Grammar

variable {grammar : Grammar}

/-- Whether a marker is in front of a text. -/
abbrev Opens (grammar : Grammar) (name : MarkerName) (text : Text) : Prop :=
  (name.marker grammar).toList <+: text

/-- A marker is in front of a text with the rest behind it, and is the longest one there. -/
structure Longest (grammar : Grammar) (name : MarkerName) (text rest : Text) : Prop where
  text_eq : text = (name.marker grammar).toList ++ rest
  longest : ∀ other, other ≠ name → grammar.Opens other text →
    (other.marker grammar).length < (name.marker grammar).length

/-- The markers can be told from each other, from blanks and from nothing. -/
structure Marked (grammar : Grammar) : Prop where
  nonempty : ∀ name : MarkerName, (name.marker grammar).toList ≠ []
  solid : ∀ name : MarkerName, Solid (name.marker grammar).toList
  distinct : ∀ name other : MarkerName, name ≠ other →
    name.marker grammar ≠ other.marker grammar

/-- A marker is in order when it is not empty and holds no blank. -/
theorem markerError?_eq_none_iff {name : MarkerName} :
    grammar.markerError? name = none ↔
      (name.marker grammar).toList ≠ [] ∧ Solid (name.marker grammar).toList := by
  simp only [markerError?, Solid]
  by_cases empty : name.marker grammar = ""
  · simp [empty]
  · -- Behind the first check, only the search for a blank is left.
    have nonempty : (name.marker grammar).isEmpty = false := by simpa using empty
    simp [nonempty, empty]

/-- Two markers clash when they are the same. -/
theorem clash?_eq_none_iff {pair : MarkerName × MarkerName} :
    grammar.clash? pair = none ↔ pair.1.marker grammar ≠ pair.2.marker grammar := by
  simp [clash?]

/-- A grammar without an error has markers that can be told apart. -/
theorem marked_of_error?_eq_none (accepted : grammar.error? = none) : grammar.Marked := by
  simp only [error?, Option.orElse_eq_orElse, Option.orElse_eq_or, Option.or_eq_none_iff,
    List.findSome?_eq_none_iff, markerError?_eq_none_iff, clash?_eq_none_iff] at accepted
  obtain ⟨each, pairs⟩ := accepted
  -- The list of names is complete, so what holds of its members holds of every marker.
  have complete : ∀ name : MarkerName, name ∈ MarkerName.all := by
    intro name
    cases name <;> decide
  refine ⟨fun name => (each name (complete name)).1, fun name => (each name (complete name)).2, ?_⟩
  intro name other differ same
  -- Each two names are compared in one order or in the other.
  have listed : (name, other) ∈ MarkerName.pairs ∨ (other, name) ∈ MarkerName.pairs := by
    cases name <;> cases other <;> first | exact absurd rfl differ | decide
  rcases listed with forward | backward
  · exact pairs _ forward same
  · exact pairs _ backward same.symm

/-- A grammar has no error exactly when its markers can be told apart. -/
theorem error?_eq_none_iff : grammar.error? = none ↔ grammar.Marked := by
  refine ⟨marked_of_error?_eq_none, fun marked => ?_⟩
  simp only [error?, Option.orElse_eq_orElse, Option.orElse_eq_or, Option.or_eq_none_iff,
    List.findSome?_eq_none_iff, markerError?_eq_none_iff, clash?_eq_none_iff]
  refine ⟨fun name _ => ⟨marked.nonempty name, marked.solid name⟩, fun pair member => ?_⟩
  -- The two names of each listed pair differ.
  have differ : ∀ pair ∈ MarkerName.pairs, pair.1 ≠ pair.2 := by decide
  exact marked.distinct _ _ (differ pair member)

/-- The default markers can be told apart. -/
theorem marked_default : Grammar.Marked {} :=
  error?_eq_none_iff.1 (by decide)

/-- Two markers of the same length are not in front of the same text. -/
theorem Marked.length_ne (marked : grammar.Marked) {name other : MarkerName} {text : Text}
    (differ : name ≠ other) (opens : grammar.Opens name text)
    (opensOther : grammar.Opens other text) :
    (name.marker grammar).length ≠ (other.marker grammar).length := by
  intro sameLength
  -- Of two texts in front of the same text, the shorter one is in front of the longer one.
  have sameCount : (name.marker grammar).toList.length = (other.marker grammar).toList.length := by
    rw [String.length_toList, String.length_toList, sameLength]
  have inFront : (name.marker grammar).toList <+: (other.marker grammar).toList :=
    List.prefix_of_prefix_length_le opens opensOther (Nat.le_of_eq sameCount)
  have same : (name.marker grammar).toList = (other.marker grammar).toList :=
    inFront.eq_of_length sameCount
  exact marked.distinct name other differ (String.toList_inj.1 same)

/-- Of the markers in front of a text, one is the longest. -/
theorem Marked.exists_longest (marked : grammar.Marked) {text : Text}
    (some : ∃ name, grammar.Opens name text) : ∃ name rest, grammar.Longest name text rest := by
  -- There are finitely many markers, so among those in front one has the greatest length.
  obtain ⟨first, opensFirst⟩ := some
  let opening : Finset MarkerName :=
    ({.declaration, .title, .comment} : Finset MarkerName).filter (grammar.Opens · text)
  have mem_opening : ∀ name, name ∈ opening ↔ grammar.Opens name text := by
    intro name
    cases name <;> simp [opening]
  obtain ⟨name, member, most⟩ := opening.exists_max_image
    (fun name => (name.marker grammar).length) ⟨first, (mem_opening first).2 opensFirst⟩
  have opens : grammar.Opens name text := (mem_opening name).1 member
  have ⟨rest, text_eq⟩ := opens
  refine ⟨name, rest, text_eq.symm, fun other differ opensOther => ?_⟩
  -- No other is longer, and none has the same length either.
  have atMost := most other ((mem_opening other).2 opensOther)
  have unequal := marked.length_ne differ opensOther opens
  exact Nat.lt_of_le_of_ne atMost unequal

/-- The longest marker is in front of the text. -/
theorem Longest.opens {name : MarkerName} {text rest : Text}
    (longest : grammar.Longest name text rest) : grammar.Opens name text :=
  ⟨rest, longest.text_eq.symm⟩

/-- A marker that is not in front of a text leaves nothing behind it. -/
theorem Marked.after?_eq_none_iff (marked : grammar.Marked) (name : MarkerName) (text : Text) :
    Text.after? (name.marker grammar).toList text = none ↔ ¬ grammar.Opens name text := by
  -- No marker is empty, which is the only other reason for finding nothing.
  rw [Text.after?_eq_none_iff]
  exact ⟨fun closed => closed (marked.nonempty name), fun closed _ => closed⟩

/-- The longest marker leaves the rest of the text behind it. -/
theorem Longest.after?_eq_some {name : MarkerName} {text rest : Text} (marked : grammar.Marked)
    (longest : grammar.Longest name text rest) :
    Text.after? (name.marker grammar).toList text = some rest :=
  Text.after?_eq_some_iff.2 ⟨marked.nonempty name, longest.text_eq⟩

/-- A marker alone is the longest one in front of itself. -/
theorem Marked.longest_self (marked : grammar.Marked) (name : MarkerName) :
    grammar.Longest name (name.marker grammar).toList [] := by
  -- Another marker in front of this one is shorter, for at the same length the two would be equal.
  refine ⟨by simp, fun other differ opens => ?_⟩
  have unequal := marked.length_ne differ opens (List.prefix_refl _)
  have atMost := opens.length_le
  rw [String.length_toList, String.length_toList] at atMost
  exact Nat.lt_of_le_of_ne atMost unequal

/-- Of titles and declarations, the longer of the markers in front decides. -/
theorem Longest.marked?_eq {name : MarkerName} {text rest : Text} (marked : grammar.Marked)
    (longest : grammar.Longest name text rest) (kept : name ≠ .comment) :
    Line.marked? grammar text = some (name.line rest) := by
  -- Each of the two is tried first or second depending on the lengths of both.
  cases name with
  | comment => exact absurd rfl kept
  | title =>
    have found : Text.after? grammar.titleMarker.toList text = some rest :=
      longest.after?_eq_some marked
    simp only [Line.marked?, Line.title?, found, Option.map_some]
    split
    · rfl
    · next shorter =>
      -- The marker of variables is tried first, but it is longer and so not in front.
      have closed : Text.after? grammar.variableMarker.toList text = none :=
        (marked.after?_eq_none_iff .declaration text).2 fun opens =>
          shorter (Nat.le_of_lt (longest.longest .declaration (by decide) opens))
      simp [Line.declaration?, closed, MarkerName.line]
  | declaration =>
    have found : Text.after? grammar.variableMarker.toList text = some rest :=
      longest.after?_eq_some marked
    simp only [Line.marked?, Line.declaration?, found, Option.map_some]
    split
    · next noShorter =>
      -- The marker of titles is tried first, but it is no shorter and so not in front.
      have closed : Text.after? grammar.titleMarker.toList text = none :=
        (marked.after?_eq_none_iff .title text).2 fun opens =>
          Nat.not_lt.2 noShorter (longest.longest .title (by decide) opens)
      simp [Line.title?, closed, MarkerName.line]
    · rfl

end Grammar

namespace Line

variable {grammar : Grammar}

open Grammar (Longest Marked)

/-- At the margin a comment marker in front decides, and else the longest of the others. -/
theorem ofText_of_longest (marked : grammar.Marked) {raw rest : Text} {name : MarkerName}
    (margin : isIndented raw = false) (longest : grammar.Longest name raw.trim rest) :
    ofText grammar raw =
      if grammar.Opens .comment raw.trim then .comment else name.line rest := by
  -- The marker is part of the text, so the line is not blank.
  have nonempty : raw.trim ≠ [] := by
    rw [longest.text_eq]
    exact List.append_ne_nil_of_left_ne_nil (marked.nonempty name) rest
  have notBlank : raw.trim.isEmpty = false := by simpa using nonempty
  have closed_iff : Text.after? grammar.commentMarker.toList raw.trim = none ↔
      ¬ grammar.Opens .comment raw.trim := marked.after?_eq_none_iff .comment raw.trim
  -- The comment marker is tested before the others, so it decides even where it is the shorter one.
  by_cases commented : grammar.Opens .comment raw.trim
  · have found : (Text.after? grammar.commentMarker.toList raw.trim).isSome = true :=
      Option.isSome_iff_ne_none.2 fun closed => closed_iff.1 closed commented
    simp only [ofText, notBlank, found, commented, Bool.false_eq_true, if_false, if_true]
  · have kept : name ≠ .comment := by
      rintro rfl
      exact commented longest.opens
    simp only [ofText, notBlank, closed_iff.2 commented, margin, commented,
      longest.marked?_eq marked kept, Option.isSome_none, Option.getD_some, Bool.false_eq_true,
      if_false]

/-- A trimmed text with the marker of variables alone in front is a declaration. -/
theorem ofText_declaration (marked : grammar.Marked) {rest : Text}
    (trimmed : Text.Trimmed (grammar.variableMarker.toList ++ rest))
    (apart : ∀ name, name ≠ .declaration →
      ¬ grammar.Opens name (grammar.variableMarker.toList ++ rest)) :
    ofText grammar (grammar.variableMarker.toList ++ rest) = .declaration rest := by
  have trim_eq := Text.trim_of_trimmed trimmed
  -- No other marker is in front, so there is no longer one.
  have longest : Longest grammar .declaration
      (Text.trim (grammar.variableMarker.toList ++ rest)) rest := by
    refine ⟨trim_eq, fun other differ opens => ?_⟩
    rw [trim_eq] at opens
    exact absurd opens (apart other differ)
  have notComment : ¬ grammar.Opens .comment
      (Text.trim (grammar.variableMarker.toList ++ rest)) := by
    rw [trim_eq]
    exact apart .comment (by decide)
  rw [ofText_of_longest marked (isIndented_of_opensSolid trimmed.1) longest, if_neg notComment]
  rfl

/-- Two words are content at the margin when no marker opens the first of them. -/
theorem ofText_pair (marked : grammar.Marked) {left right : Text} (leftNonempty : left ≠ [])
    (leftSolid : Solid left) (rightNonempty : right ≠ []) (rightSolid : Solid right)
    (unopened : ∀ name, ¬ grammar.Opens name left) :
    ofText grammar (left ++ ' ' :: right) = .content (left ++ ' ' :: right) false := by
  have trimmed : Text.Trimmed (left ++ ' ' :: right) := by
    refine ⟨(leftSolid.trimmed leftNonempty).1.append _, ?_⟩
    have ends := (rightSolid.trimmed rightNonempty).2.append (left ++ [' '])
    simpa using ends
  -- A marker has no blank, so it would have to be in front of the first word.
  have unmarked : ∀ name : MarkerName,
      Text.after? (name.marker grammar).toList (left ++ ' ' :: right) = none := fun name =>
    Text.after?_append_gap (marked.solid name)
      ((marked.after?_eq_none_iff name left).2 (unopened name)) rfl
  exact ofText_eq_content_iff.2 ⟨Text.trim_of_trimmed trimmed, trimmed.1.ne_nil,
    unmarked .comment, isIndented_of_opensSolid trimmed.1,
    fun _ => marked?_eq_none_iff.2 ⟨unmarked .declaration, unmarked .title⟩⟩

/-- A title or a declaration has its marker in front. -/
theorem opens_of_marked?_eq {text rest : Text} {name : MarkerName}
    (made : marked? grammar text = some (name.line rest)) : grammar.Opens name text := by
  -- The two ways to make such a line are told apart by the marker that was found.
  rcases marked?_eq_some made with ⟨behind, opened, same⟩ | ⟨behind, opened, same⟩
  · obtain ⟨_, text_eq⟩ := Text.after?_eq_some_iff.1 opened
    cases name with
    | declaration => exact ⟨behind, text_eq.symm⟩
    | title | comment => cases same
  · obtain ⟨_, text_eq⟩ := Text.after?_eq_some_iff.1 opened
    cases name with
    | title => exact ⟨behind, text_eq.symm⟩
    | declaration | comment => cases same

/-- A line that a marker makes has that marker in front, and no comment marker if it is another. -/
theorem opens_of_ofText_eq {raw rest : Text} {name : MarkerName}
    (line : ofText grammar raw = name.line rest) :
    grammar.Opens name raw.trim ∧
      (name = .comment ∨ Text.after? grammar.commentMarker.toList raw.trim = none) := by
  -- The conditions are taken in the order in which the line is tested.
  unfold ofText at line
  simp only at line
  -- A blank line is made by no marker.
  split at line
  · cases name <;> cases line
  split at line
  · next commented =>
    obtain ⟨behind, found⟩ := Option.isSome_iff_exists.1 commented
    obtain ⟨_, text_eq⟩ := Text.after?_eq_some_iff.1 found
    -- A line with the comment marker in front is a comment and nothing else.
    cases name with
    | comment => exact ⟨⟨behind, text_eq.symm⟩, .inl rfl⟩
    | title | declaration => cases line
  next uncommented =>
  have closed : Text.after? grammar.commentMarker.toList raw.trim = none := by
    simpa using uncommented
  split at line
  · -- Indented content is not made by a marker either.
    cases name <;> cases line
  · cases found : marked? grammar raw.trim with
    | none =>
      rw [found] at line
      cases name <;> cases line
    | some made =>
      rw [found, Option.getD_some] at line
      exact ⟨opens_of_marked?_eq (found.trans (congrArg some line)), .inr closed⟩

/--
Where a marker is in front of a line at the margin, the comment marker decides, else the longest.

So a kind of line never occurs exactly when the comment marker is in front of its marker.
-/
theorem ofText_eq_comment_or_longest (accepted : grammar.error? = none) :
    (∀ raw, isIndented raw = false → (∃ name, grammar.Opens name raw.trim) →
      ∃ name rest, grammar.Longest name raw.trim rest ∧ ofText grammar raw =
        if grammar.Opens .comment raw.trim then .comment else name.line rest) ∧
    ∀ name : MarkerName,
      (∃ raw rest, isIndented raw = false ∧ ofText grammar raw = name.line rest) ↔
        name = .comment ∨ ¬ grammar.Opens .comment (name.marker grammar).toList := by
  have marked := Grammar.marked_of_error?_eq_none accepted
  refine ⟨fun raw margin some => ?_, fun name => ?_⟩
  · obtain ⟨name, rest, longest⟩ := marked.exists_longest some
    exact ⟨name, rest, longest, ofText_of_longest marked margin longest⟩
  constructor
  · rintro ⟨raw, rest, _, line⟩
    obtain ⟨opens, comment | closed⟩ := opens_of_ofText_eq line
    · exact Or.inl comment
    · -- In front of the marker, the comment marker would be in front of the line as well.
      refine Or.inr fun inFront => ?_
      exact (marked.after?_eq_none_iff .comment raw.trim).1 closed (inFront.trans opens)
  · intro free
    -- The marker alone is such a line: it has no blank to trim and none to be indented by.
    have trimmed : Text.Trimmed (name.marker grammar).toList :=
      (marked.solid name).trimmed (marked.nonempty name)
    have margin : isIndented (name.marker grammar).toList = false := by
      obtain ⟨⟨first, rest, text_eq, solid⟩, _⟩ := trimmed
      simp [isIndented, text_eq, solid]
    have alone : Text.trim (name.marker grammar).toList = (name.marker grammar).toList :=
      Text.trim_of_trimmed trimmed
    refine ⟨(name.marker grammar).toList, [], margin, ?_⟩
    rw [ofText_of_longest marked margin (alone.symm ▸ marked.longest_self name), alone]
    -- Only the comment marker may hide a marker, and it hides itself without changing the kind.
    rcases free with rfl | closed
    · rw [if_pos (List.prefix_refl _)]
      rfl
    · rw [if_neg closed]

/-- With a title marker of two signs, one of which alone marks variables, titles still occur. -/
theorem ofText_eq_comment_or_longest_signs :
    ({ variableMarker := "$", titleMarker := "$$" } : Grammar).error? = none ∧
      ∃ raw rest, isIndented raw = false ∧
        ofText { variableMarker := "$", titleMarker := "$$" } raw = MarkerName.title.line rest := by
  -- The other two markers are not in front of this one, which is all that is asked for a title.
  have accepted : ({ variableMarker := "$", titleMarker := "$$" } : Grammar).error? = none := by
    decide
  exact ⟨accepted, ((ofText_eq_comment_or_longest accepted).2 .title).2 (Or.inr (by decide))⟩

/-- A comment marker of one sign hides titles behind two of them, though theirs is the longer. -/
theorem ofText_not_always_longest :
    ¬ ∀ (grammar : Grammar) (raw rest : Text) (name : MarkerName), grammar.error? = none →
      isIndented raw = false → grammar.Longest name raw.trim rest →
      ofText grammar raw = name.line rest := by
  intro always
  have longest : Longest { titleMarker := "##", commentMarker := "#" } .title
      (Text.trim "## Grid".toList) " Grid".toList := by
    refine ⟨by decide, fun other differ _ => ?_⟩
    -- The other two markers have one sign each.
    cases other with
    | title => exact absurd rfl differ
    | declaration => decide
    | comment => decide
  have title := always _ "## Grid".toList " Grid".toList .title (by decide) (by decide) longest
  exact absurd title (by decide)

end Line

end OverlaySheet
