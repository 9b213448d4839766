import OverlaySheet.Proofs.Text.Pieces
import OverlaySheet.Sheet.Token

/-! Tokens of a line: what they are made of, and how they meet around equals signs. -/

namespace OverlaySheet.Token

open Text (OpensSolid EndsSolid Solid Trimmed isBlank isAsciiBlank)

/-- The equals sign is no blank. -/
@[simp] theorem isBlank_equals : isBlank '=' = false := by decide

/-- A blank of ASCII is no equals sign. -/
theorem ne_equals_of_isAsciiBlank {c : Char} (ascii : isAsciiBlank c = true) : c ≠ '=' := by
  -- The sign is not among the blanks of ASCII, which a look at them tells.
  intro sign
  subst sign
  exact absurd ascii (by decide)

/-- A character that is no ASCII blank stays, and it alone tells how the text goes on. -/
theorem tightenAfter_cons {c : Char} (solid : isAsciiBlank c = false) (equalsBefore : Bool)
    (rest : Text) :
    tightenAfter equalsBefore (c :: rest) = c :: tightenAfter (c == '=') rest := by
  by_cases sign : c = '='
  · -- A sign is seen by the text behind it.
    subst sign
    simp [tightenAfter]
  · have unlike : (c == '=') = false := by simpa using sign
    simp [tightenAfter, solid, sign, unlike]

/-- A space before a character that is no ASCII blank goes when an equals sign is next to it. -/
theorem tightenAfter_space {c : Char} (solid : isAsciiBlank c = false) (equalsBefore : Bool)
    (rest : Text) :
    tightenAfter equalsBefore (' ' :: c :: rest) =
      if equalsBefore || c == '=' then tighten (c :: rest) else ' ' :: tighten (c :: rest) := by
  have space : isAsciiBlank ' ' = true := by decide
  -- The run of blanks ends right behind the space.
  have stop : (c :: rest).dropWhile isAsciiBlank = c :: rest := by simp [solid]
  rw [tightenAfter, if_neg (by decide), if_pos space, stop, tighten, tightenAfter_cons solid,
    tightenAfter_cons solid]
  by_cases sign : c = '=' <;> simp [sign]

/-- Up to a character that is no ASCII blank, a text is tightened whatever comes behind. -/
theorem tightenAfter_append (front : Text) {c : Char} (solid : isAsciiBlank c = false)
    (equalsBefore : Bool) :
    ∃ tight, ∀ back, tightenAfter equalsBefore (front ++ c :: back) =
      tight ++ c :: tightenAfter (c == '=') back := by
  induction front generalizing equalsBefore with
  | nil => exact ⟨[], fun back => tightenAfter_cons solid equalsBefore back⟩
  | cons d front ih =>
    by_cases blank : isAsciiBlank d = true
    · -- Whether the blank goes is seen before the end of this part of the text.
      have sameStop : ∀ back, ((front ++ c :: back).dropWhile isAsciiBlank).head? =
          ((front ++ [c]).dropWhile isAsciiBlank).head? := by
        intro back
        rw [List.dropWhile_append, List.dropWhile_append]
        cases front.dropWhile isAsciiBlank <;> simp [solid]
      have unsigned : d ≠ '=' := ne_equals_of_isAsciiBlank blank
      by_cases goes : (equalsBefore ||
          ((front ++ [c]).dropWhile isAsciiBlank).head? == some '=') = true
      · -- The blank goes, and the sign before it is still next to the rest.
        obtain ⟨tight, known⟩ := ih equalsBefore
        refine ⟨tight, fun back => ?_⟩
        rw [List.cons_append, tightenAfter, if_neg unsigned, if_pos blank, sameStop,
          if_pos goes, known]
      · -- The blank stays, and no sign is before the rest any more.
        obtain ⟨tight, known⟩ := ih false
        refine ⟨d :: tight, fun back => ?_⟩
        rw [List.cons_append, tightenAfter, if_neg unsigned, if_pos blank, sameStop,
          if_neg goes, known, List.cons_append]
    · -- A character that stays is in front of what the rest becomes.
      have blank : isAsciiBlank d = false := by simpa using blank
      obtain ⟨tight, known⟩ := ih (d == '=')
      refine ⟨d :: tight, fun back => ?_⟩
      rw [List.cons_append, tightenAfter_cons blank, known, List.cons_append]

/-- Tightening only takes characters away. -/
theorem tightenAfter_sublist (equalsBefore : Bool) (text : Text) :
    (tightenAfter equalsBefore text).Sublist text := by
  fun_induction tightenAfter equalsBefore text with
  | case1 => exact List.Sublist.refl _
  -- A sign, a kept blank and any other character stay, and a dropped blank goes.
  | case2 _ rest ih => exact ih.cons_cons _
  | case3 _ c rest _ _ _ ih => exact ih.cons _
  | case4 _ c rest _ _ _ ih => exact ih.cons_cons _
  | case5 _ c rest _ _ ih => exact ih.cons_cons _

/-- Tightening takes only blanks away. -/
theorem filter_tightenAfter (equalsBefore : Bool) (text : Text) :
    (tightenAfter equalsBefore text).filter (fun c => !isBlank c) =
      text.filter fun c => !isBlank c := by
  fun_induction tightenAfter equalsBefore text with
  | case1 => rfl
  | case2 _ rest ih => simp [ih]
  -- Whether a blank was dropped or kept, the filter takes it away.
  | case3 _ c rest _ ascii _ ih => simp [Text.isBlank_of_isAsciiBlank ascii, ih]
  | case4 _ c rest _ ascii _ ih => simp [Text.isBlank_of_isAsciiBlank ascii, ih]
  | case5 _ c rest _ _ ih => simp [List.filter_cons, ih]

/-- The words of a text do not depend on whether an equals sign stands before it. -/
theorem words_tightenAfter (equalsBefore : Bool) (text : Text) :
    Text.words (tightenAfter equalsBefore text) = split text := by
  induction text generalizing equalsBefore with
  | nil => rfl
  | cons c rest ih =>
    by_cases ascii : isAsciiBlank c = true
    · -- A blank in front of the first word is none of its characters, so it may stay or go.
      have unsigned : c ≠ '=' := ne_equals_of_isAsciiBlank ascii
      have blankOrNot : ∀ before, Text.words (tightenAfter before (c :: rest)) = split rest := by
        intro before
        rw [tightenAfter, if_neg unsigned, if_pos ascii]
        split
        · exact ih before
        · rw [Text.words_cons_blank (Text.isBlank_of_isAsciiBlank ascii), ih]
      rw [split, tighten, blankOrNot, blankOrNot]
    · -- Any other character hides from the text behind it what stood before.
      have solid : isAsciiBlank c = false := by simpa using ascii
      rw [split, tighten, tightenAfter_cons solid, tightenAfter_cons solid]

/-- A token is not empty, and none of its characters is a blank. -/
theorem mem_split {text token : Text} (member : token ∈ split text) :
    token ≠ [] ∧ Solid token :=
  Text.mem_words member

/-- The characters of the tokens are those of the text that are no blanks, in order. -/
@[simp] theorem flatten_split (text : Text) :
    (split text).flatten = text.filter fun c => !isBlank c := by
  rw [split, Text.flatten_words, tighten, filter_tightenAfter]

/-- A text of tokens in a row has no blanks to filter. -/
theorem filter_flatten_split (text : Text) :
    (split text).flatten.filter (fun c => !isBlank c) = (split text).flatten := by
  -- What the row holds is the text without its blanks, and filtering it again changes nothing.
  rw [flatten_split, List.filter_filter]
  simp

/-- A text without a blank is tight. -/
theorem tighten_of_solid {text : Text} (solid : Solid text) : tighten text = text := by
  -- The claim is stronger than needed, for a sign may have come before.
  have general : ∀ equalsBefore, tightenAfter equalsBefore text = text := by
    induction text with
    | nil => intro _; rfl
    | cons c rest ih =>
      intro equalsBefore
      obtain ⟨here, there⟩ := List.forall_mem_cons.1 solid
      rw [tightenAfter_cons (Text.isAsciiBlank_of_not_isBlank here), ih there]
  exact general false

/-- A text without a blank that is not empty is one token. -/
theorem split_of_solid {text : Text} (nonempty : text ≠ []) (solid : Solid text) :
    split text = [text] := by
  rw [split, tighten_of_solid solid, Text.words_of_solid nonempty solid]

/-- Blanks in front of a text add no token. -/
theorem split_blanks_append {blanks : Text} (all : ∀ c ∈ blanks, isBlank c = true)
    (text : Text) : split (blanks ++ text) = split text := by
  induction blanks with
  | nil => rfl
  | cons c blanks ih =>
    obtain ⟨here, there⟩ := List.forall_mem_cons.1 all
    by_cases ascii : isAsciiBlank c = true
    · have unsigned : c ≠ '=' := ne_equals_of_isAsciiBlank ascii
      rw [List.cons_append, split, tighten, tightenAfter, if_neg unsigned, if_pos ascii]
      -- The blank goes or stays in front, and either way it is part of no word.
      split
      · exact ih there
      · exact (Text.words_cons_blank here _).trans (ih there)
    · -- Blanks beyond ASCII are kept by tightening, but they are part of no word.
      have solid : isAsciiBlank c = false := by simpa using ascii
      rw [List.cons_append, split, tighten, tightenAfter_cons solid, Text.words_cons_blank here,
        words_tightenAfter, ih there]

/-- A text that ends solid does so when it is tight, with the same character. -/
theorem tighten_endsSolid {text : Text} (ends : EndsSolid text) :
    EndsSolid (tighten text) ∧ (tighten text).getLast? = text.getLast? := by
  obtain ⟨front, c, rfl, solid⟩ := ends
  obtain ⟨tight, known⟩ := tightenAfter_append front (Text.isAsciiBlank_of_not_isBlank solid) false
  -- The last character is no blank, so tightening keeps it at the end.
  have whole : tighten (front ++ [c]) = tight ++ [c] := known []
  rw [whole]
  exact ⟨⟨tight, c, rfl, solid⟩, by simp⟩

/-- A text that starts solid does so when it is tight, with the same character. -/
theorem tighten_opensSolid {text : Text} (opens : OpensSolid text) :
    OpensSolid (tighten text) ∧ (tighten text).head? = text.head? := by
  -- The first character is no blank, so tightening keeps it where it is.
  obtain ⟨c, rest, rfl, solid⟩ := opens
  rw [tighten, tightenAfter_cons (Text.isAsciiBlank_of_not_isBlank solid)]
  exact ⟨⟨c, _, rfl, solid⟩, rfl⟩

/-- A text that ends solid has tokens. -/
theorem split_ne_nil {text : Text} (ends : EndsSolid text) : split text ≠ [] :=
  Text.words_ne_nil_of_endsSolid (tighten_endsSolid ends).1

/-- Blanks behind a text that ends solid add no token. -/
theorem split_append_blanks {text blanks : Text} (ends : EndsSolid text)
    (all : ∀ c ∈ blanks, isBlank c = true) : split (text ++ blanks) = split text := by
  obtain ⟨front, c, rfl, solid⟩ := ends
  obtain ⟨tight, known⟩ := tightenAfter_append front (Text.isAsciiBlank_of_not_isBlank solid) false
  -- What tightening leaves of the blanks are blanks.
  have kept : ∀ d ∈ tightenAfter (c == '=') blanks, isBlank d = true := fun d member =>
    all d ((tightenAfter_sublist _ _).subset member)
  have longer : tighten (front ++ [c] ++ blanks) =
      (tight ++ [c]) ++ tightenAfter (c == '=') blanks := by
    simpa [tighten] using known blanks
  have whole : tighten (front ++ [c]) = tight ++ [c] := known []
  rw [split, longer, Text.words_append_blanks kept, ← whole, split]

/-- Blanks around a text hold no token. -/
@[simp] theorem split_trim (text : Text) : split text.trim = split text := by
  obtain ⟨front, back, blankFront, blankBack, whole, none | trimmed⟩ := Text.trim_split text
  · -- A text of blanks alone has no token, and neither has what is left of it.
    have blank : Text.Blank (front ++ back) := by
      intro c member
      exact (List.mem_append.1 member).elim (blankFront c) (blankBack c)
    have noToken := split_blanks_append blank []
    rw [List.append_nil] at noToken
    rw [none, List.append_nil] at whole
    rw [none, whole, noToken]
  · calc split text.trim
      _ = split (text.trim ++ back) := (split_append_blanks trimmed.2 blankBack).symm
      _ = split (front ++ (text.trim ++ back)) := (split_blanks_append blankFront _).symm
      _ = split text := by rw [← List.append_assoc, ← whole]

/-- Blanks stay when neither side of them is an equals sign. -/
theorem tightenAfter_blanks {blanks : Text} (all : Text.Blank blanks) {c : Char}
    (solid : isBlank c = false) (unsigned : c ≠ '=') (rest : Text) :
    tightenAfter false (blanks ++ c :: rest) = blanks ++ tighten (c :: rest) := by
  have notAscii : isAsciiBlank c = false := Text.isAsciiBlank_of_not_isBlank solid
  -- The induction takes the blanks from the left, and none of them begins a run up to a sign.
  induction blanks with
  | nil => rfl
  | cons d blanks ih =>
    obtain ⟨here, there⟩ := List.forall_mem_cons.1 all
    have kept : d ≠ '=' := by
      rintro rfl
      simp at here
    by_cases ascii : isAsciiBlank d = true
    · -- The run of ASCII blanks ends at another blank or at the character behind them.
      have noSign : ((blanks ++ c :: rest).dropWhile isAsciiBlank).head? ≠ some '=' := by
        clear ih all here kept ascii
        induction blanks with
        | nil => simpa [notAscii] using unsigned
        | cons e blanks ih =>
          obtain ⟨blank, others⟩ := List.forall_mem_cons.1 there
          rw [List.cons_append, List.dropWhile_cons]
          split
          · exact ih others
          · rintro same
            obtain rfl := Option.some.inj same
            simp at blank
      rw [List.cons_append, tightenAfter, if_neg kept, if_pos ascii,
        if_neg (by simpa using noSign), ih there, List.cons_append]
    · -- A blank beyond ASCII is never dropped.
      have notBlank : isAsciiBlank d = false := by simpa using ascii
      have unlike : (d == '=') = false := by simpa using kept
      rw [List.cons_append, tightenAfter_cons notBlank, unlike, ih there, List.cons_append]

/-- Blanks between two texts keep their tokens apart when no equals sign is next to them. -/
theorem split_append_gap {left gap right : Text} (leftEnd : EndsSolid left)
    (blank : Text.Blank gap) (nonempty : gap ≠ []) (rightStart : OpensSolid right)
    (noneBefore : left.getLast? ≠ some '=') (noneAfter : right.head? ≠ some '=') :
    split (left ++ gap ++ right) = split left ++ split right := by
  obtain ⟨front, c, rfl, solidEnd⟩ := leftEnd
  obtain ⟨d, rest, rfl, solidStart⟩ := rightStart
  obtain ⟨tight, known⟩ :=
    tightenAfter_append front (Text.isAsciiBlank_of_not_isBlank solidEnd) false
  have whole : tighten (front ++ [c]) = tight ++ [c] := known []
  have unlike : (c == '=') = false := by simpa using noneBefore
  have unsigned : d ≠ '=' := by simpa using noneAfter
  -- The gap stays, and it is where the words on both sides part.
  have spaced : tighten (front ++ [c] ++ gap ++ d :: rest) =
      (tight ++ [c]) ++ (gap ++ tighten (d :: rest)) := by
    have all := known (gap ++ d :: rest)
    rw [unlike, tightenAfter_blanks blank solidStart unsigned] at all
    simpa [tighten] using all
  have parts : (gap ++ tighten (d :: rest)).head?.all isBlank = true := by
    obtain ⟨e, blanks, rfl⟩ := List.exists_cons_of_ne_nil nonempty
    simpa using blank e (by simp)
  rw [split, spaced, Text.words_append_cut parts, Text.words_blanks_append blank, ← whole, split,
    split]

/-- A space between two texts keeps their tokens apart when no equals sign is next to it. -/
theorem split_append_apart {left right : Text} (leftEnd : EndsSolid left)
    (rightStart : OpensSolid right) (noneBefore : left.getLast? ≠ some '=')
    (noneAfter : right.head? ≠ some '=') :
    split (left ++ ' ' :: right) = split left ++ split right := by
  -- One space is a gap.
  have space : Text.Blank [' '] := by decide
  rw [List.append_cons]
  exact split_append_gap leftEnd space (by simp) rightStart noneBefore noneAfter

/-- Two words are two tokens when no equals sign is next to the space between them. -/
theorem split_pair {left right : Text} (leftNonempty : left ≠ []) (leftSolid : Solid left)
    (rightNonempty : right ≠ []) (rightSolid : Solid right)
    (noneBefore : left.getLast? ≠ some '=') (noneAfter : right.head? ≠ some '=') :
    split (left ++ ' ' :: right) = [left, right] := by
  -- A word alone is one token, so the two sides give two.
  rw [split_append_apart (leftSolid.trimmed leftNonempty).2 (rightSolid.trimmed rightNonempty).1
    noneBefore noneAfter, split_of_solid leftNonempty leftSolid,
    split_of_solid rightNonempty rightSolid]
  rfl

/-- A space next to an equals sign goes, and the tokens on both sides become one. -/
theorem split_append_glued {left right : Text} (leftEnd : EndsSolid left)
    (rightStart : OpensSolid right)
    (sign : left.getLast? = some '=' ∨ right.head? = some '=') :
    ∃ before last first after, split left = before ++ [last] ∧ split right = first :: after ∧
      split (left ++ ' ' :: right) = before ++ (last ++ first) :: after ∧
      (last.getLast? = some '=' ∨ first.head? = some '=') := by
  obtain ⟨leftTight, sameLast⟩ := tighten_endsSolid leftEnd
  obtain ⟨rightTight, sameHead⟩ := tighten_opensSolid rightStart
  -- The tight texts meet without a blank, so the words next to the sign are one.
  obtain ⟨before, last, first, after, leftWords, rightWords, joined, lastEnd, firstStart⟩ :=
    Text.words_append_glue leftTight rightTight
  refine ⟨before, last, first, after, leftWords, rightWords, ?_, ?_⟩
  · obtain ⟨front, c, rfl, solidEnd⟩ := leftEnd
    obtain ⟨d, rest, rfl, solidStart⟩ := rightStart
    obtain ⟨tight, known⟩ :=
      tightenAfter_append front (Text.isAsciiBlank_of_not_isBlank solidEnd) false
    have whole : tighten (front ++ [c]) = tight ++ [c] := known []
    have signed : (c == '=' || d == '=') = true := by simpa using sign
    -- The space goes because of the sign.
    have tightened : tighten (front ++ [c] ++ ' ' :: d :: rest) =
        tighten (front ++ [c]) ++ tighten (d :: rest) := by
      have all := known (' ' :: d :: rest)
      rw [tightenAfter_space (Text.isAsciiBlank_of_not_isBlank solidStart), signed] at all
      rw [whole]
      simpa [tighten] using all
    rw [split, tightened, joined]
  · rw [lastEnd, firstStart, sameLast, sameHead]
    exact sign

/-- What a text opens with, without blanks and equals signs, its first token opens with. -/
theorem split_opens {opening : Text} (nonempty : opening ≠ [])
    (plain : ∀ c ∈ opening, isBlank c = false ∧ c ≠ '=') (rest : Text) :
    ∃ token others, split (opening ++ rest) = token :: others ∧ opening <+: token := by
  have solid : Solid opening := fun c member => (plain c member).1
  -- No character of the opening is a blank, so tightening keeps all of them.
  have kept : ∀ equalsBefore, ∃ more, tightenAfter equalsBefore (opening ++ rest) =
      opening ++ more := by
    clear nonempty solid
    induction opening with
    | nil => exact fun equalsBefore => ⟨tightenAfter equalsBefore rest, rfl⟩
    | cons c opening ih =>
      intro equalsBefore
      obtain ⟨here, there⟩ := List.forall_mem_cons.1 plain
      obtain ⟨more, known⟩ := ih there (c == '=')
      refine ⟨more, ?_⟩
      rw [List.cons_append, tightenAfter_cons (Text.isAsciiBlank_of_not_isBlank here.1), known,
        List.cons_append]
  obtain ⟨more, tightened⟩ := kept false
  have single : Text.words opening = [opening] := Text.words_of_solid nonempty solid
  rw [split, tighten, tightened]
  by_cases gap : more.head?.all isBlank = true
  · -- The first word is the opening alone.
    refine ⟨opening, Text.words more, ?_, List.prefix_refl opening⟩
    rw [Text.words_append_cut gap, single, List.singleton_append]
  · -- The opening goes on, so it is the front of a longer first word.
    have opens : OpensSolid more := by
      cases more with
      | nil => simp at gap
      | cons c more => exact ⟨c, more, rfl, by simpa using gap⟩
    obtain ⟨before, last, first, after, openingWords, _, joined, _, _⟩ :=
      Text.words_append_glue (solid.trimmed nonempty).2 opens
    have alone : before ++ [last] = [] ++ [opening] := by
      rw [← openingWords, single, List.nil_append]
    obtain ⟨rfl, same⟩ := List.append_inj' alone rfl
    obtain rfl := List.singleton_inj.1 same
    exact ⟨last ++ first, after, joined, List.prefix_append last first⟩

/--
How the tokens of two texts in a row lie in the tokens of the whole.

Either all of them stay as they are, or two of them have become one where an equals sign is.
-/
inductive Meet (left right : List Text) : List Text → Prop where
  | apart : Meet left right (left ++ right)
  | glued {before after : List Text} {last first : Text} : left = before ++ [last] →
      right = first :: after → (last.getLast? = some '=' ∨ first.head? = some '=') →
      Meet left right (before ++ (last ++ first) :: after)

/-- The tokens on both sides of a space meet in the tokens of the whole. -/
theorem meet_space {left right : Text} (leftEnd : EndsSolid left)
    (rightStart : OpensSolid right) :
    Meet (split left) (split right) (split (left ++ ' ' :: right)) := by
  by_cases sign : left.getLast? = some '=' ∨ right.head? = some '='
  · -- A sign takes the space away.
    obtain ⟨before, last, first, after, leftTokens, rightTokens, joined, signed⟩ :=
      split_append_glued leftEnd rightStart sign
    rw [joined]
    exact .glued leftTokens rightTokens signed
  · obtain ⟨noneBefore, noneAfter⟩ := not_or.1 sign
    rw [split_append_apart leftEnd rightStart noneBefore noneAfter]
    exact .apart

/-- The tokens up to an equals sign and those behind it meet in the tokens of the whole. -/
theorem meet_equals (left right : Text) :
    Meet (split (left ++ ['='])) (split right) (split (left ++ '=' :: right)) := by
  obtain ⟨tight, known⟩ := tightenAfter_append left (c := '=') (by decide) false
  have whole : tighten (left ++ ['=']) = tight ++ ['='] := known []
  -- The text behind the sign is tightened knowing of the sign.
  have longer : tighten (left ++ '=' :: right) =
      tighten (left ++ ['=']) ++ tightenAfter true right := by
    rw [whole]
    simpa [tighten] using known right
  have ends : EndsSolid (tighten (left ++ ['='])) := ⟨tight, '=', whole, isBlank_equals⟩
  rw [← words_tightenAfter true right, split, split, longer]
  by_cases gap : (tightenAfter true right).head?.all isBlank = true
  · -- A blank that is none of ASCII keeps the words behind the sign apart.
    rw [Text.words_append_cut gap]
    exact .apart
  · -- Without such a blank the first word behind the sign joins the last one before it.
    have opens : OpensSolid (tightenAfter true right) := by
      cases form : tightenAfter true right with
      | nil => simp [form] at gap
      | cons c rest => exact ⟨c, rest, rfl, by simpa [form] using gap⟩
    obtain ⟨before, last, first, after, leftWords, rightWords, joined, lastEnd, _⟩ :=
      Text.words_append_glue ends opens
    rw [joined]
    exact .glued leftWords rightWords (Or.inl (by simpa [whole] using lastEnd))

end OverlaySheet.Token
