import OverlaySheet.Proofs.Sheet.Token
import OverlaySheet.Sheet.Scope

/-! Declarations as they are written: a name, an equals sign and a value, and how they are read. -/

namespace OverlaySheet

open Text (EndsSolid Solid isBlank isAsciiBlank)

namespace Declaration

/-- The texts that can be declared: a letter or an underscore, then characters of names. -/
def IsName (name : Text) : Prop :=
  name.head?.any isNameStart = true ∧ ∀ c ∈ name, isNameChar c = true

instance (name : Text) : Decidable (IsName name) :=
  @instDecidableAnd _ _ _ (List.decidableBAll (fun c => isNameChar c = true) name)

/-- A character of names is an ASCII letter or digit, or one of three marks. -/
theorem isNameChar_cases {c : Char} (nameChar : isNameChar c = true) :
    (65 ≤ c.toNat ∧ c.toNat ≤ 90) ∨ (97 ≤ c.toNat ∧ c.toNat ≤ 122) ∨
      (48 ≤ c.toNat ∧ c.toNat ≤ 57) ∨ c = '_' ∨ c = '.' ∨ c = '-' := by
  -- Letters come in two ranges, and the marks one by one.
  simp only [isNameChar, Bool.or_eq_true, beq_iff_eq] at nameChar
  rcases nameChar with ((plain | rfl) | rfl) | rfl
  · have letterOrDigit : (c.isAlpha || c.isDigit) = true := plain
    rcases (Bool.or_eq_true _ _).mp letterOrDigit with letter | digit
    · have upperOrLower : (c.isUpper || c.isLower) = true := letter
      rcases (Bool.or_eq_true _ _).mp upperOrLower with upper | lower
      · exact Or.inl (of_decide_eq_true upper)
      · obtain ⟨above, below⟩ := (Bool.and_eq_true _ _).mp lower
        exact Or.inr (Or.inl ⟨of_decide_eq_true above, of_decide_eq_true below⟩)
    · obtain ⟨above, below⟩ := (Bool.and_eq_true _ _).mp digit
      exact Or.inr (Or.inr (Or.inl ⟨of_decide_eq_true above, of_decide_eq_true below⟩))
  all_goals simp

/-- A character of names is neither a blank nor an equals sign. -/
theorem isNameChar_plain {c : Char} (nameChar : isNameChar c = true) :
    isBlank c = false ∧ c ≠ '=' := by
  constructor
  · cases blank : isBlank c with
    | false => rfl
    | true =>
      exfalso
      -- The ranges of letters, digits and marks meet no range of blanks.
      simp only [isBlank, Text.blankRanges, List.any_cons, List.any_nil, Bool.or_eq_true,
        Bool.and_eq_true, decide_eq_true_eq, Bool.false_eq_true, or_false] at blank
      rcases isNameChar_cases nameChar with upper | lower | digit | rfl | rfl | rfl
      · omega
      · omega
      · omega
      all_goals exact absurd blank (by decide)
  · intro sign
    subst sign
    exact absurd nameChar (by decide)

/-- A blank of ASCII is no character of names. -/
theorem isNameChar_of_isAsciiBlank {c : Char} (blank : isAsciiBlank c = true) :
    isNameChar c = false := by
  -- All characters of names are solid, and a blank of ASCII is a blank.
  cases nameChar : isNameChar c with
  | false => rfl
  | true =>
    have solid := (isNameChar_plain nameChar).1
    rw [Text.isBlank_of_isAsciiBlank blank] at solid
    cases solid

/-- A name has no blank. -/
theorem IsName.solid {name : Text} (isName : IsName name) : Solid name :=
  fun c member => (isNameChar_plain (isName.2 c member)).1

/-- Where a property ends, a scan for it stops and leaves the rest. -/
theorem scan_append {holds : Char → Bool} {front : Text} (all : ∀ c ∈ front, holds c = true)
    {c : Char} (stop : holds c = false) (back : Text) :
    (front ++ c :: back).takeWhile holds = front ∧
      (front ++ c :: back).dropWhile holds = c :: back := by
  constructor
  · -- The scan takes the whole front, because all of it holds, and stops at the character behind.
    rw [List.takeWhile_append_of_pos all, List.takeWhile_cons]
    simp [stop]
  · rw [List.dropWhile_append_of_pos all, List.dropWhile_cons]
    simp [stop]

/--
A text is written as a declaration: a name, an equals sign between ASCII blanks, and the value.

The value starts with another character than these blanks and is in one line.
-/
structure Written (text : Text) (declaration : Declaration) : Prop where
  isName : IsName declaration.name
  opens : declaration.value.head?.any (fun c => !isAsciiBlank c) = true
  oneLine : '\n' ∉ declaration.value
  form : ∃ before after : Text, (∀ c ∈ before, isAsciiBlank c = true) ∧
    (∀ c ∈ after, isAsciiBlank c = true) ∧
    text.trimEnd = declaration.name ++ (before ++ '=' :: (after ++ declaration.value))

/-- A scan of a name goes as far as the blanks before the equals sign, or the sign itself. -/
theorem scan_name {name before : Text} (isName : IsName name)
    (blank : ∀ c ∈ before, isAsciiBlank c = true) (back : Text) :
    (name ++ (before ++ '=' :: back)).takeWhile isNameChar = name ∧
      (name ++ (before ++ '=' :: back)).dropWhile isNameChar = before ++ '=' :: back := by
  -- With no blank before it, the sign itself ends the name, and otherwise the first blank does.
  cases before with
  | nil => exact scan_append isName.2 (by decide) back
  | cons c before =>
    have stop : isNameChar c = false := isNameChar_of_isAsciiBlank (blank c (by simp))
    exact scan_append isName.2 stop (before ++ '=' :: back)

/-- What is written as a declaration is read as that declaration. -/
theorem Written.read?_eq {text : Text} {declaration : Declaration}
    (written : Written text declaration) : read? text = some declaration := by
  obtain ⟨isName, opens, oneLine, before, after, blankBefore, blankAfter, form⟩ := written
  obtain ⟨name, value⟩ := declaration
  cases value with
  | nil => simp at opens
  | cons first rest =>
    have solid : isAsciiBlank first = false := by simpa using opens
    -- Each scan stops at the first character of the part that comes next.
    obtain ⟨atName, behindName⟩ := scan_name isName blankBefore (after ++ first :: rest)
    have atSign := (scan_append blankBefore (c := '=') (by decide) (after ++ first :: rest)).2
    have atValue := (scan_append blankAfter solid rest).2
    have accepted : (name.head?.any isNameStart && !(first :: rest).isEmpty &&
        !(first :: rest).contains '\n') = true := by
      simpa [isName.1] using oneLine
    simp only [read?, form, atName, behindName, atSign, atValue, accepted, if_true]

/-- What is read as a declaration is written as that declaration. -/
theorem Written.of_read? {text : Text} {declaration : Declaration}
    (found : read? text = some declaration) : Written text declaration := by
  unfold read? at found
  simp only at found
  split at found
  · next rest split =>
    by_cases accepted : ((text.trimEnd.takeWhile isNameChar).head?.any isNameStart &&
        !(rest.dropWhile isAsciiBlank).isEmpty &&
        !(rest.dropWhile isAsciiBlank).contains '\n') = true
    · rw [if_pos accepted] at found
      obtain rfl := Option.some.inj found
      simp only [Bool.and_eq_true, Bool.not_eq_true', List.isEmpty_eq_false_iff] at accepted
      obtain ⟨⟨named, nonempty⟩, oneLine⟩ := accepted
      -- What the scans have passed over are the name and the blanks around the sign.
      refine ⟨⟨named, fun c member => List.mem_takeWhile_imp member⟩, ?_, by simpa using oneLine,
        (text.trimEnd.dropWhile isNameChar).takeWhile isAsciiBlank, rest.takeWhile isAsciiBlank,
        fun c member => List.mem_takeWhile_imp member,
        fun c member => List.mem_takeWhile_imp member, ?_⟩
      · -- Behind the blanks comes a character that is none of them.
        obtain ⟨c, more, value⟩ := List.exists_cons_of_ne_nil nonempty
        have stop := List.head_dropWhile_not isAsciiBlank nonempty
        simp only [value, List.head_cons] at stop
        simp [value, stop]
      · rw [List.takeWhile_append_dropWhile, ← split, List.takeWhile_append_dropWhile,
          List.takeWhile_append_dropWhile]
    · rw [if_neg accepted] at found
      cases found
  · -- Without a sign behind the name nothing is read.
    cases found

/-- A name, a sign between ASCII blanks and a trimmed value are written as a declaration. -/
theorem written_of_trimmed {declaration : Declaration} (isName : IsName declaration.name)
    (trimmed : Text.Trimmed declaration.value) (oneLine : '\n' ∉ declaration.value)
    {before after : Text} (blankBefore : ∀ c ∈ before, isAsciiBlank c = true)
    (blankAfter : ∀ c ∈ after, isAsciiBlank c = true) :
    Written (declaration.name ++ (before ++ '=' :: (after ++ declaration.value))) declaration := by
  have starts : declaration.value.head?.any (fun c => !isAsciiBlank c) = true := by
    obtain ⟨c, rest, same, solid⟩ := trimmed.1
    simp [same, Text.isAsciiBlank_of_not_isBlank solid]
  -- The text ends as the value does, with no blank.
  have ends : EndsSolid (declaration.name ++ (before ++ '=' :: (after ++ declaration.value))) := by
    have whole := trimmed.2.append (declaration.name ++ (before ++ '=' :: after))
    simpa using whole
  exact ⟨isName, starts, oneLine, before, after, blankBefore, blankAfter,
    Text.trimEnd_of_endsSolid ends⟩

/-- What is read as a declaration is what is written as one. -/
theorem read?_eq_some_iff {text : Text} {declaration : Declaration} :
    read? text = some declaration ↔ Written text declaration :=
  ⟨Written.of_read?, Written.read?_eq⟩

/-- Nothing is read where nothing is written as a declaration. -/
theorem read?_eq_none_iff {text : Text} :
    read? text = none ↔ ¬ ∃ declaration, Written text declaration := by
  simp only [Option.eq_none_iff_forall_ne_some, ne_eq, read?_eq_some_iff, not_exists]

/-- Blanks at the end of a declaration do not count. -/
@[simp] theorem read?_trimEnd (text : Text) : read? text.trimEnd = read? text := by
  -- The text is trimmed before anything else is done with it.
  unfold read?
  rw [Text.trimEnd_trimEnd]

/-- A value at the end of a trimmed text ends with the same character, which is no blank. -/
theorem endsSolid_of_form {text before after : Text} {declaration : Declaration}
    (form : text.trimEnd = declaration.name ++ (before ++ '=' :: (after ++ declaration.value)))
    (nonempty : declaration.value ≠ []) : EndsSolid declaration.value := by
  -- The value is the last part of the text, and it is not empty.
  have whole : text.trimEnd =
      (declaration.name ++ (before ++ '=' :: after)) ++ declaration.value := by
    simpa using form
  exact Text.endsSolid_of_trimEnd_eq whole nonempty

/-- What is read as a declaration has a name, and a value that ends with no blank. -/
theorem read?_eq_some {text : Text} {declaration : Declaration}
    (found : read? text = some declaration) :
    IsName declaration.name ∧ EndsSolid declaration.value := by
  obtain ⟨isName, opens, _, before, after, _, _, form⟩ := read?_eq_some_iff.1 found
  -- The blanks behind the value are gone with the trimming, so its last character is solid.
  refine ⟨isName, ?_⟩
  have nonempty : declaration.value ≠ [] := by
    rintro empty
    simp [empty] at opens
  exact endsSolid_of_form form nonempty

/-- A name directly before an equals sign is the name that is read, and the rest is the value. -/
theorem read?_name_equals {name text : Text} {declaration : Declaration} (isName : IsName name)
    (found : read? (name ++ '=' :: text) = some declaration) :
    declaration.name = name ∧ Token.split declaration.value = Token.split text := by
  -- Trimming stops at the sign at the latest, so it trims the value alone.
  have trimmed : (name ++ '=' :: text : Text).trimEnd = name ++ '=' :: text.trimEnd :=
    Text.trimEnd_append_cons name Token.isBlank_equals text
  -- The scan of the name stops at the sign, which is no character of names.
  obtain ⟨nameTaken, nameDropped⟩ := scan_append isName.2 (c := '=') (by decide) text.trimEnd
  have signKept : ('=' :: text.trimEnd).dropWhile isAsciiBlank = '=' :: text.trimEnd := by
    rw [List.dropWhile_cons, show isAsciiBlank '=' = false by decide]
    simp
  simp only [read?, trimmed, nameTaken, nameDropped, signKept] at found
  split at found
  · next accepted =>
    obtain rfl := Option.some.inj found
    refine ⟨rfl, ?_⟩
    obtain ⟨blanks, all, whole, ends⟩ := Text.trimEnd_split text
    rcases ends with none | ends
    · -- A value of blanks alone is refused.
      simp [none] at accepted
    · -- The blanks around the value hold no token.
      have front : ∀ c ∈ text.trimEnd.takeWhile isAsciiBlank, isBlank c = true := fun c member =>
        Text.isBlank_of_isAsciiBlank (List.mem_takeWhile_imp member)
      calc Token.split (text.trimEnd.dropWhile isAsciiBlank)
        _ = Token.split (text.trimEnd.takeWhile isAsciiBlank ++
              text.trimEnd.dropWhile isAsciiBlank) := (Token.split_blanks_append front _).symm
        _ = Token.split text.trimEnd := by rw [List.takeWhile_append_dropWhile]
        _ = Token.split (text.trimEnd ++ blanks) := (Token.split_append_blanks ends all).symm
        _ = Token.split text := by rw [← whole]
  · exact absurd found (by simp)

end Declaration

end OverlaySheet
