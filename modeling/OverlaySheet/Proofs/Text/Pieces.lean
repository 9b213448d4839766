import Mathlib.Data.List.Basic
import Mathlib.Data.List.TakeWhile
import OverlaySheet.Proofs.Text.Words

/-! Pieces of a text: what a marker, a cut and a trim leave of it, words joined again, and case. -/

namespace OverlaySheet.Text

/-- A marker that is not empty opens exactly the texts that it is in front of. -/
theorem after?_eq_some_iff {marker text rest : Text} :
    after? marker text = some rest ↔ marker ≠ [] ∧ text = marker ++ rest := by
  -- An empty marker opens nothing, which is a case of its own.
  cases marker with
  | nil => simp [after?]
  | cons c marker => simp [after?, List.isPrefixOf?_eq_some_iff_append_eq, eq_comm]

/-- A marker opens no text that it is not in front of, and an empty one opens none. -/
theorem after?_eq_none_iff {marker text : Text} :
    after? marker text = none ↔ (marker ≠ [] → ¬ marker <+: text) := by
  constructor
  · rintro unmarked nonempty ⟨rest, rfl⟩
    have found : after? marker (marker ++ rest) = some rest :=
      after?_eq_some_iff.2 ⟨nonempty, rfl⟩
    simp [unmarked] at found
  · -- What follows the marker would show that it is in front of the text.
    intro apart
    cases found : after? marker text with
    | none => rfl
    | some rest =>
      obtain ⟨nonempty, rfl⟩ := after?_eq_some_iff.1 found
      exact absurd (List.prefix_append marker rest) (apart nonempty)

/-- What is in front of two texts in a row is in front of the first or goes on into the second. -/
theorem prefix_append_cases {marker left right : Text} (opens : marker <+: left ++ right) :
    marker <+: left ∨ ∃ c more, marker = left ++ c :: more ∧ right.head? = some c := by
  obtain ⟨rest, joined⟩ := opens
  rcases List.append_eq_append_iff.1 joined with ⟨middle, split, _⟩ | ⟨middle, split, other⟩
  · -- The marker ends within the first text.
    exact Or.inl ⟨middle, split.symm⟩
  · cases middle with
    | nil => exact Or.inl ⟨[], by simp [split]⟩
    | cons c more => exact Or.inr ⟨c, more, split, by simp [other]⟩

/-- A marker without blanks that does not open a text does not open it before a gap either. -/
theorem after?_append_gap {marker left right : Text} (solid : Solid marker)
    (unmarked : after? marker left = none) (gap : right.head?.all isBlank = true) :
    after? marker (left ++ right) = none := by
  refine after?_eq_none_iff.2 fun nonempty opens => ?_
  rcases prefix_append_cases opens with inFront | ⟨c, more, rfl, head⟩
  · exact after?_eq_none_iff.1 unmarked nonempty inFront
  · -- The marker would go on into the gap, and hold a blank.
    have blank : isBlank c = true := by simpa [head] using gap
    simp [solid c (by simp)] at blank

/-- A cut finds the separator that nothing in front contains. -/
theorem cut_append {separator : Char} {front : Text} (without : separator ∉ front)
    (back : Text) : cut separator (front ++ separator :: back) = (front, some back) := by
  induction front with
  | nil => simp [cut]
  | cons c front ih =>
    -- The cut passes over every character that is not the separator.
    obtain ⟨different, later⟩ := not_or.1 (mt List.mem_cons.2 without)
    simp [cut, Ne.symm different, ih later]

/-- A text without the separator is not cut. -/
theorem cut_of_not_mem {separator : Char} {text : Text} (without : separator ∉ text) :
    cut separator text = (text, none) := by
  induction text with
  | nil => rfl
  -- The first character is passed over, as it is not the separator.
  | cons c text ih =>
    obtain ⟨different, later⟩ := not_or.1 (mt List.mem_cons.2 without)
    simp [cut, Ne.symm different, ih later]

/-- The two sides of a cut, around the separator, are the text again. -/
theorem cut_cases (separator : Char) (text : Text) :
    (∃ front back, separator ∉ front ∧ text = front ++ separator :: back ∧
      cut separator text = (front, some back)) ∨
    (separator ∉ text ∧ cut separator text = (text, none)) := by
  -- The first place of the separator is the one where the text is cut.
  by_cases member : separator ∈ text
  · obtain ⟨front, back, rfl, without⟩ := List.eq_append_cons_of_mem member
    exact Or.inl ⟨front, back, without, rfl, cut_append without back⟩
  · exact Or.inr ⟨member, cut_of_not_mem member⟩

/-- The end of a text that ends solid ends solid, unless nothing is left of it. -/
theorem EndsSolid.of_append {front back : Text} (ends : EndsSolid (front ++ back))
    (nonempty : back ≠ []) : EndsSolid back := by
  obtain ⟨inner, last, whole, solid⟩ := ends
  -- The last character of the whole is the last one of its end.
  have same : back.getLast nonempty = last := by
    have atEnd := congrArg List.getLast? whole
    rw [List.getLast?_append_of_ne_nil _ nonempty, List.getLast?_concat,
      List.getLast?_eq_getLast_of_ne_nil nonempty] at atEnd
    exact Option.some.inj atEnd
  exact ⟨back.dropLast, last, by rw [← same, List.dropLast_concat_getLast], solid⟩

/-- Trimming the end takes away blanks alone, and then the text is empty or ends solid. -/
theorem trimEnd_split (text : Text) :
    ∃ blanks, (∀ c ∈ blanks, isBlank c = true) ∧ text = text.trimEnd ++ blanks ∧
      (text.trimEnd = [] ∨ EndsSolid text.trimEnd) := by
  refine ⟨(text.reverse.takeWhile isBlank).reverse, ?_, ?_, ?_⟩
  · -- What the scan from behind drops are blanks.
    intro c member
    exact List.mem_takeWhile_imp (List.mem_reverse.1 member)
  · -- Dropped and kept characters together are the text.
    rw [trimEnd, ← List.reverse_append, List.takeWhile_append_dropWhile, List.reverse_reverse]
  · -- The first character that the scan from behind does not drop is no blank.
    have head := List.head?_dropWhile_not isBlank text.reverse
    cases kept : text.reverse.dropWhile isBlank with
    | nil => exact Or.inl (by simp [trimEnd, kept])
    | cons last front =>
      refine Or.inr ⟨front.reverse, last, by simp [trimEnd, kept], ?_⟩
      simpa [kept] using head

/-- What stands last in a text that is trimmed at its end ends solid, unless it is empty. -/
theorem endsSolid_of_trimEnd_eq {text front back : Text} (form : text.trimEnd = front ++ back)
    (nonempty : back ≠ []) : EndsSolid back := by
  -- Trimming leaves nothing or an end that is solid, and here it has left something.
  obtain ⟨_, _, _, none | ends⟩ := trimEnd_split text
  · exact absurd (List.append_eq_nil_iff.1 (form.symm.trans none)).2 nonempty
  · exact (form ▸ ends).of_append nonempty

/-- A text that ends solid has nothing to trim at its end. -/
theorem trimEnd_of_endsSolid {text : Text} (ends : EndsSolid text) : text.trimEnd = text := by
  obtain ⟨front, last, rfl, solid⟩ := ends
  -- Read backwards, the first character is solid, so nothing is dropped.
  simp [trimEnd, solid]

/-- Trimming the end a second time changes nothing. -/
@[simp] theorem trimEnd_trimEnd (text : Text) : text.trimEnd.trimEnd = text.trimEnd := by
  -- What is left is empty or ends solid, and neither has more to lose.
  obtain ⟨_, _, _, none | ends⟩ := trimEnd_split text
  · rw [none]
    rfl
  · exact trimEnd_of_endsSolid ends

/-- A text has in front what is in front of the text without the blanks at its end. -/
theorem prefix_of_prefix_trimEnd {marker text : Text} (opens : marker <+: text.trimEnd) :
    marker <+: text := by
  -- The text has more at its end and nothing else.
  obtain ⟨blanks, _, whole, _⟩ := trimEnd_split text
  exact opens.trans ⟨blanks, whole.symm⟩

/-- Trimming the end stops at the latest before a character that is no blank. -/
theorem trimEnd_append_cons (front : Text) {c : Char} (solid : isBlank c = false) (back : Text) :
    trimEnd (front ++ c :: back) = front ++ c :: back.trimEnd := by
  -- Read backwards, the blanks of the end are dropped first, and the solid character stops them.
  simp only [trimEnd, List.reverse_append, List.reverse_cons, List.append_assoc,
    List.dropWhile_append, List.singleton_append, List.dropWhile_cons, solid]
  cases back.reverse.dropWhile isBlank <;> simp

/-- A trimmed text behind blanks is what trimming leaves. -/
theorem trim_blanks_append {blanks text : Text} (all : ∀ c ∈ blanks, isBlank c = true)
    (trimmed : Trimmed text) : trim (blanks ++ text) = text := by
  obtain ⟨⟨first, rest, rfl, solid⟩, ends⟩ := trimmed
  -- The front is trimmed up to the first solid character, and the end has nothing to trim.
  rw [trim, trimStart, List.dropWhile_append_of_pos all, List.dropWhile_cons, solid]
  exact trimEnd_of_endsSolid ends

/-- A trimmed text between blanks is what trimming leaves. -/
theorem trim_between {front text back : Text} (blankFront : Blank front) (trimmed : Trimmed text)
    (blankBack : Blank back) : trim (front ++ text ++ back) = text := by
  have opens : OpensSolid (text ++ back) := trimmed.1.append back
  obtain ⟨inner, last, rfl, solid⟩ := trimmed.2
  -- The front is dropped up to the text, and the back up to its last character.
  have start : trimStart (front ++ (inner ++ [last] ++ back)) = inner ++ [last] ++ back := by
    obtain ⟨first, rest, same, solidFirst⟩ := opens
    rw [trimStart, List.dropWhile_append_of_pos blankFront, same, List.dropWhile_cons, solidFirst]
    rfl
  have noneBehind : back.trimEnd = [] := by
    simpa [trimEnd, Blank] using blankBack
  rw [List.append_assoc, trim, start, List.append_assoc, List.singleton_append,
    trimEnd_append_cons inner solid, noneBehind]

/-- A text is what trimming leaves between blanks. -/
theorem trim_split (text : Text) :
    ∃ front back, Blank front ∧ Blank back ∧ text = front ++ text.trim ++ back ∧
      (text.trim = [] ∨ Trimmed text.trim) := by
  -- The front is trimmed first and the end of what is left behind it.
  obtain ⟨back, blankBack, whole, ends⟩ := trimEnd_split text.trimStart
  refine ⟨text.takeWhile isBlank, back, fun c member => List.mem_takeWhile_imp member, blankBack,
    ?_, ?_⟩
  · calc text
      _ = text.takeWhile isBlank ++ text.trimStart := List.takeWhile_append_dropWhile.symm
      _ = text.takeWhile isBlank ++ (text.trim ++ back) := by rw [trim, ← whole]
      _ = text.takeWhile isBlank ++ text.trim ++ back := (List.append_assoc ..).symm
  · refine ends.imp id fun endsSolid => ⟨?_, endsSolid⟩
    -- The first character that is kept is the first one that is no blank.
    obtain ⟨c, rest, cons⟩ : ∃ c rest, text.trim = c :: rest :=
      List.exists_cons_of_ne_nil endsSolid.ne_nil
    have head := List.head?_dropWhile_not isBlank text
    rw [← trimStart, whole, ← trim, cons] at head
    exact ⟨c, rest, cons, by simpa using head⟩

/-- A trimmed text has nothing to trim. -/
theorem trim_of_trimmed {text : Text} (trimmed : Trimmed text) : text.trim = text := by
  exact @trim_blanks_append [] text (by simp) trimmed

/-- A text that starts solid is trimmed at its end alone. -/
theorem trim_of_opensSolid {text : Text} (opens : OpensSolid text) : text.trim = text.trimEnd := by
  obtain ⟨first, rest, rfl, solid⟩ := opens
  -- The first character stays, and so all of the text does.
  simp [trim, trimStart, solid]

/-- What trimming leaves is empty or ends solid. -/
theorem trim_eq_nil_or_endsSolid (text : Text) : text.trim = [] ∨ EndsSolid text.trim := by
  -- The end is trimmed last.
  obtain ⟨_, _, _, ends⟩ := trimEnd_split text.trimStart
  exact ends

/-- More than one word are joined with a space behind the first. -/
theorem joinWords_cons {word : Text} {rest : List Text} (more : rest ≠ []) :
    joinWords (word :: rest) = word ++ ' ' :: joinWords rest := by
  -- A single word is joined without any space.
  cases rest with
  | nil => exact absurd rfl more
  | cons next rest => rfl

/-- Joined words start solid when the first one does. -/
theorem joinWords_opensSolid {word : Text} {rest : List Text} (opens : OpensSolid word) :
    OpensSolid (joinWords (word :: rest)) := by
  -- Either way the first word comes first.
  cases rest with
  | nil => exact opens
  | cons next rest => exact opens.append _

/-- Joined words end solid when each of them does. -/
theorem joinWords_endsSolid {list : List Text} (nonempty : list ≠ [])
    (ends : ∀ word ∈ list, EndsSolid word) : EndsSolid (joinWords list) := by
  induction list with
  | nil => exact absurd rfl nonempty
  | cons word rest ih =>
    obtain ⟨here, there⟩ := List.forall_mem_cons.1 ends
    by_cases more : rest = []
    · subst more
      exact here
    · -- The other words come last, and they end solid.
      rw [joinWords_cons more, show word ++ ' ' :: joinWords rest
        = (word ++ [' ']) ++ joinWords rest by simp]
      exact (ih more there).append _

/-- Texts are the same apart from case when their lower-case forms are. -/
theorem sameIgnoringCase_iff {left right : Text} :
    sameIgnoringCase left right = true ↔ left.map Char.toLower = right.map Char.toLower := by
  rw [sameIgnoringCase, beq_iff_eq]

end OverlaySheet.Text
