import OverlaySheet.Layer.Color
import OverlaySheet.Proofs.Number.Hex
import OverlaySheet.Proofs.Text.Pieces

/-! Colours: which texts denote one, and that written colours are read again in any case. -/

namespace OverlaySheet

open Text (sameIgnoringCase trim)

/-- A hash is a hash in lower case, and no other character becomes one. -/
theorem Text.toLower_eq_hash_iff {c : Char} : c.toLower = '#' ↔ c = '#' := by
  constructor
  · intro lower
    by_cases letter : c.val ≥ 'A'.val ∧ c.val ≤ 'Z'.val
    · -- What letters become are letters, which come after the hash.
      have moved : c.toLower.val = c.val + 32 := congrArg Char.val (dif_pos letter)
      have code : (c.val + 32).toNat = 35 := moved ▸ congrArg Char.toNat lower
      have least : 65 ≤ c.val.toNat := UInt32.le_iff_toNat_le.1 letter.1
      have greatest : c.val.toNat ≤ 90 := UInt32.le_iff_toNat_le.1 letter.2
      rw [UInt32.toNat_add] at code
      simp only [UInt32.reduceToNat] at code
      omega
    · have kept : c.toLower = c := dif_neg letter
      exact kept.symm.trans lower
  · rintro rfl
    decide

namespace Color

/--
The number that hex digits behind a hash denote.

Eight digits are the number itself, six are eight with full alpha, and fewer are doubled.
-/
inductive Denotes : Text → Nat → Prop where
  | full {digits : Text} : digits.length = 8 → (∀ c ∈ digits, Hex.IsDigit c) →
      Denotes digits (Hex.number digits)
  | withoutAlpha {digits : Text} {n : Nat} : digits.length = 6 →
      Denotes ('f' :: 'f' :: digits) n → Denotes digits n
  | short {digits : Text} {n : Nat} : digits.length = 3 ∨ digits.length = 4 →
      Denotes (double digits) n → Denotes digits n

/-- Doubled digits are twice as many. -/
@[simp] theorem length_double (digits : Text) : (double digits).length = 2 * digits.length := by
  -- Each digit is written twice.
  induction digits with
  | nil => rfl
  | cons c rest ih =>
    simp only [double, List.flatMap_cons, List.length_append, List.length_cons] at ih ⊢
    simp only [List.length_nil]
    omega

/-- Doubled digits are the same digits. -/
@[simp] theorem forall_mem_double {digits : Text} {holds : Char → Prop} :
    (∀ c ∈ double digits, holds c) ↔ ∀ c ∈ digits, holds c := by
  simp [double]

/-- Digits can be expanded when there are three, four, six or eight of them. -/
theorem expand?_cases {digits expanded : Text} (expands : expand? digits = some expanded) :
    digits.length = 3 ∧ expanded = 'f' :: 'f' :: double digits ∨
      digits.length = 4 ∧ expanded = double digits ∨
      digits.length = 6 ∧ expanded = 'f' :: 'f' :: digits ∨
      digits.length = 8 ∧ expanded = digits := by
  rw [expand?] at expands
  -- One case for each length that a form has, and none for other lengths.
  split at expands <;> simp_all [double]

/-- Expanded digits are eight. -/
theorem length_expand? {digits expanded : Text} (expands : expand? digits = some expanded) :
    expanded.length = 8 := by
  -- Each form has its own number of digits, and doubling and the alpha make eight of them.
  rcases expand?_cases expands with ⟨three, rfl⟩ | ⟨four, rfl⟩ | ⟨six, rfl⟩ | ⟨eight, rfl⟩
  · simp [three]
  · simp [four]
  · simp [six]
  · exact eight

/-- Expanding adds only digits. -/
theorem forall_isDigit_expand? {digits expanded : Text} (expands : expand? digits = some expanded) :
    (∀ c ∈ expanded, Hex.IsDigit c) ↔ ∀ c ∈ digits, Hex.IsDigit c := by
  -- What is added is full alpha, and what is doubled was there before.
  have alpha : Hex.IsDigit 'f' := by decide
  rcases expand?_cases expands with ⟨_, rfl⟩ | ⟨_, rfl⟩ | ⟨_, rfl⟩ | ⟨_, rfl⟩
  · simp [alpha]
  · exact forall_mem_double
  · simp [alpha]
  · exact Iff.rfl

/-- Digits denote the number of what they are expanded to. -/
theorem denotes_iff {digits : Text} {n : Nat} :
    Denotes digits n ↔ ∃ expanded, expand? digits = some expanded ∧
      (∀ c ∈ expanded, Hex.IsDigit c) ∧ Hex.number expanded = n := by
  constructor
  · intro denotes
    -- Each rule turns digits into a longer form, until there are eight.
    induction denotes with
    | @full digits eight all => exact ⟨digits, by simp [expand?, eight], all, rfl⟩
    | @withoutAlpha digits n six _ ih =>
      obtain ⟨expanded, expands, rest⟩ := ih
      -- Eight digits expand to themselves.
      have same : expanded = 'f' :: 'f' :: digits := by simpa [expand?, six] using expands.symm
      exact ⟨expanded, by simp [expand?, six, same], rest⟩
    | @short digits n few _ ih =>
      obtain ⟨expanded, expands, rest⟩ := ih
      refine ⟨expanded, ?_, rest⟩
      rcases few with three | four
      · -- Three digits become six, which get their alpha in a second step.
        simpa [expand?, three, double] using expands
      · simpa [expand?, four] using expands
  · intro parts
    obtain ⟨expanded, expands, all, rfl⟩ := parts
    -- The rules are gone back through from the eight digits.
    have full : Denotes expanded (Hex.number expanded) := .full (length_expand? expands) all
    rcases expand?_cases expands with ⟨three, rfl⟩ | ⟨four, rfl⟩ | ⟨six, rfl⟩ | ⟨_, rfl⟩
    · exact .short (.inl three) (.withoutAlpha (by simp [three]) full)
    · exact .short (.inr four) full
    · exact .withoutAlpha six full
    · exact full

/-- The reader of digits gets the number of expanded digits, which has no more than 32 bits. -/
theorem value?_expand? {digits expanded : Text} (expands : expand? digits = some expanded)
    (all : ∀ c ∈ digits, Hex.IsDigit c) :
    Hex.value? expanded = some (Hex.number expanded) ∧ Hex.number expanded < 2 ^ 32 := by
  have all := (forall_isDigit_expand? expands).2 all
  -- Eight digits of four bits each have thirty-two.
  have bound := Hex.number_lt all
  rw [length_expand? expands] at bound
  exact ⟨Hex.value?_eq_some_iff.2 ⟨all, rfl⟩, bound⟩

/-- A colour is read from digits that denote its number. -/
theorem ofHex?_eq_some_iff {digits : Text} {color : Color} :
    ofHex? digits = some color ↔ Denotes digits color.argb.toNat := by
  rw [denotes_iff, ofHex?, Option.bind_eq_some_iff]
  refine exists_congr fun expanded => and_congr_right fun expands => ?_
  -- The digits that are read are the expanded ones, so they have to be hex digits.
  rw [Option.map_eq_some_iff]
  constructor
  · intro read
    obtain ⟨value, valued, rfl⟩ := read
    obtain ⟨all, rfl⟩ := Hex.value?_eq_some_iff.1 valued
    -- The number fits into 32 bits, so none of it is lost.
    have fits := (value?_expand? expands ((forall_isDigit_expand? expands).1 all)).2
    exact ⟨all, (UInt32.toNat_ofNat_of_lt' fits).symm⟩
  · intro parts
    obtain ⟨all, number⟩ := parts
    refine ⟨_, Hex.value?_eq_some_iff.2 ⟨all, number⟩, ?_⟩
    rw [UInt32.ofNat_toNat]

/-- No two names are the same apart from case. -/
theorem eq_of_named {first second : String × Color} (isNamed : first ∈ named)
    (isNamed' : second ∈ named)
    (same : sameIgnoringCase first.1.toList second.1.toList = true) : first = second := by
  -- There are ten names, so all pairs can be looked at.
  have each : ∀ first ∈ named, ∀ second ∈ named,
      sameIgnoringCase first.1.toList second.1.toList = true → first = second := by
    decide
  exact each first isNamed second isNamed' same

/-- A colour is read from its name in any case. -/
theorem ofName?_eq_some_iff {name : Text} {color : Color} :
    ofName? name = some color ↔
      ∃ entry ∈ named, sameIgnoringCase entry.1.toList name = true ∧ entry.2 = color := by
  rw [ofName?, Option.map_eq_some_iff]
  constructor
  · intro found
    -- What the search finds is an entry, and it passes the test.
    obtain ⟨entry, found, rfl⟩ := found
    have same : sameIgnoringCase entry.1.toList name = true := by simpa using List.find?_some found
    exact ⟨entry, List.mem_of_find?_eq_some found, same, rfl⟩
  · intro parts
    obtain ⟨entry, isNamed, same, rfl⟩ := parts
    -- The search stops at some entry with the name, and no other has it.
    have stops : (named.find? fun other => sameIgnoringCase other.1.toList name).isSome := by
      rw [List.find?_isSome]
      exact ⟨entry, isNamed, same⟩
    obtain ⟨other, found⟩ := Option.isSome_iff_exists.1 stops
    have same' : sameIgnoringCase other.1.toList name = true := by simpa using List.find?_some found
    rw [Text.sameIgnoringCase_iff] at same same'
    have equal := eq_of_named (List.mem_of_find?_eq_some found) isNamed
      (Text.sameIgnoringCase_iff.2 (same'.trans same.symm))
    exact ⟨other, found, congrArg Prod.snd equal⟩

/-- A text is a hash and digits that denote the number of a colour. -/
def IsHash (text : Text) (color : Color) : Prop :=
  ∃ digits, text = '#' :: digits ∧ Denotes digits color.argb.toNat

/-- A text is the name of a colour in any case. -/
def IsName (text : Text) (color : Color) : Prop :=
  ∃ entry ∈ named, sameIgnoringCase entry.1.toList text = true ∧ entry.2 = color

/-- No name starts with a hash. -/
theorem not_isName_hash (digits : Text) (color : Color) : ¬ IsName ('#' :: digits) color := by
  intro isName
  obtain ⟨entry, isNamed, same, _⟩ := isName
  -- A name that is the same apart from case would start with a hash in lower case.
  have lower : ∀ entry ∈ named, (entry.1.toList.map Char.toLower).head? ≠ some '#' := by decide
  rw [Text.sameIgnoringCase_iff] at same
  apply lower entry isNamed
  rw [same]
  rfl

/-- A colour is read from a hash with digits or from a name, blanks around them apart. -/
theorem read?_eq_some_iff {text : String} {color : Color} :
    read? text = some color ↔
      IsHash (trim text.toList) color ∨ IsName (trim text.toList) color := by
  rw [read?]
  -- A hash decides that digits are read, so names are looked for only without it.
  split
  · next digits hash =>
    simp [ofHex?_eq_some_iff, IsHash, hash, not_isName_hash]
  · next noHash =>
    have notHash : ¬ IsHash (trim text.toList) color := by
      intro isHash
      obtain ⟨digits, hash, _⟩ := isHash
      exact noHash digits hash
    simp [ofName?_eq_some_iff, IsName, notHash]

/-- Digits behind a hash denote a number of 32 bits when there are as many as a form has. -/
theorem exists_denotes_iff {digits : Text} :
    (∃ color : Color, Denotes digits color.argb.toNat) ↔
      digits.length ∈ [3, 4, 6, 8] ∧ ∀ c ∈ digits, Hex.IsDigit c := by
  constructor
  · intro denoted
    obtain ⟨color, denotes⟩ := denoted
    obtain ⟨expanded, expands, all, _⟩ := denotes_iff.1 denotes
    -- Digits are expanded only in one of the four forms.
    refine ⟨?_, (forall_isDigit_expand? expands).1 all⟩
    rcases expand?_cases expands with ⟨length, _⟩ | ⟨length, _⟩ | ⟨length, _⟩ | ⟨length, _⟩ <;>
      simp [length]
  · intro parts
    obtain ⟨length, all⟩ := parts
    -- With one of the four lengths there is a form.
    have some : ∃ expanded, expand? digits = some expanded := by
      simp only [List.mem_cons, List.not_mem_nil, or_false] at length
      rcases length with length | length | length | length <;> simp [expand?, length]
    obtain ⟨expanded, expands⟩ := some
    -- The number fits into 32 bits, so there is a colour with it.
    have fits := (value?_expand? expands all).2
    refine ⟨⟨UInt32.ofNat (Hex.number expanded)⟩, denotes_iff.2 ⟨expanded, expands, ?_, ?_⟩⟩
    · exact (forall_isDigit_expand? expands).2 all
    · exact (UInt32.toNat_ofNat_of_lt' fits).symm

/-- A text denotes a colour when it is a hash with so many digits, or a name. -/
theorem isSome_read?_iff {text : String} :
    (read? text).isSome = true ↔
      (∃ digits, trim text.toList = '#' :: digits ∧ digits.length ∈ [3, 4, 6, 8] ∧
        ∀ c ∈ digits, Hex.IsDigit c) ∨
      ∃ entry ∈ named, sameIgnoringCase entry.1.toList (trim text.toList) = true := by
  rw [Option.isSome_iff_exists]
  -- To denote some colour, a text needs the form alone.
  simp only [read?_eq_some_iff, exists_or, ← exists_denotes_iff, IsHash, IsName]
  refine or_congr ?_ ?_
  · simp only [@exists_comm Color, exists_and_left]
  · simp only [@exists_comm Color, exists_and_left, exists_eq', and_true]

/-- A written colour is read again, in any case and with any blanks around it. -/
theorem read?_of_write {color : Color} {text : String}
    (same : sameIgnoringCase (trim text.toList) color.write = true) : read? text = some color := by
  -- Case is left out on both sides, so a hash is followed by what the digits were written as.
  rw [Text.sameIgnoringCase_iff, write, List.map_cons, List.map_eq_cons_iff] at same
  obtain ⟨c, digits, text_eq, hash, same⟩ := same
  obtain rfl := Text.toLower_eq_hash_iff.1 hash
  -- There are as many digits as were written, and they denote the same number.
  have eight : digits.length = 8 := by
    have lengths := congrArg List.length same
    rwa [List.length_map, List.length_map, Hex.length_write] at lengths
  have all : ∀ c ∈ digits, Hex.IsDigit c :=
    (Hex.forall_isDigit_congr same).2 (Hex.isDigit_write _ _)
  have number : Hex.number digits = color.argb.toNat := by
    rw [Hex.number_congr same, Hex.number_write]
    exact Nat.mod_eq_of_lt color.argb.toNat_lt
  refine read?_eq_some_iff.2 (.inl ⟨digits, text_eq, ?_⟩)
  exact number ▸ Denotes.full eight all

/-- The four channels are the bytes of a colour. -/
theorem toNat_channels (color : Color) :
    color.argb.toNat = color.alpha.toNat * 2 ^ 24 + color.red.toNat * 2 ^ 16 +
      color.green.toNat * 2 ^ 8 + color.blue.toNat := by
  -- Shifts are divisions, and what is cut off are remainders.
  have bound := color.argb.toNat_lt
  simp only [alpha, red, green, blue, UInt32.toNat_toUInt8, UInt32.toNat_shiftRight,
    UInt32.reduceToNat, Nat.shiftRight_eq_div_pow, Nat.reduceMod, Nat.reducePow]
  omega

/--
Which texts denote which colour, and that colours are read again from what is written of them.

Expanded digits always have a value of 32 bits, so reading them does not fail.
-/
theorem read?_exact_and_inverts_write :
    (∀ text color, read? text = some color ↔
      IsHash (trim text.toList) color ∨ IsName (trim text.toList) color) ∧
    (∀ text, (read? text).isSome = true ↔
      (∃ digits, trim text.toList = '#' :: digits ∧ digits.length ∈ [3, 4, 6, 8] ∧
        ∀ c ∈ digits, Hex.IsDigit c) ∨
      ∃ entry ∈ named, sameIgnoringCase entry.1.toList (trim text.toList) = true) ∧
    (∀ digits expanded, expand? digits = some expanded → (∀ c ∈ digits, Hex.IsDigit c) →
      Hex.value? expanded = some (Hex.number expanded) ∧ Hex.number expanded < 2 ^ 32) ∧
    (∀ color text, sameIgnoringCase (trim text.toList) color.write = true →
      read? text = some color) ∧
    ∀ color : Color, color.argb.toNat = color.alpha.toNat * 2 ^ 24 + color.red.toNat * 2 ^ 16 +
      color.green.toNat * 2 ^ 8 + color.blue.toNat := by
  refine ⟨fun _ _ => read?_eq_some_iff, fun _ => isSome_read?_iff, ?_, ?_, toNat_channels⟩
  · intro digits expanded expands all
    -- The digits stay hex digits when they are expanded.
    exact value?_expand? expands all
  · intro color text same
    exact read?_of_write same

/-- A short form and its digits doubled, and a written colour in mixed case with a blank behind. -/
theorem read?_exact_and_inverts_write_mixed_case :
    read? "#8f0" = some ⟨0xFF88FF00⟩ ∧
      Hex.value? "ff88ff00".toList = some 0xFF88FF00 ∧
      sameIgnoringCase (trim "#80fF4081 ".toList) (write ⟨0x80FF4081⟩) = true ∧
      read? "#80fF4081 " = some ⟨0x80FF4081⟩ := by
  obtain ⟨readIff, _, value, inverse, _⟩ := read?_exact_and_inverts_write
  -- Three digits are doubled, and then they get their alpha.
  have full : Denotes "ff88ff00".toList 0xFF88FF00 :=
    .full (by decide) (by decide)
  have short : Denotes "8f0".toList 0xFF88FF00 :=
    .short (.inl (by decide)) (.withoutAlpha (by decide) full)
  -- A short form stands for its digits doubled, with a full alpha in front.
  have expands : expand? "8f0".toList = some "ff88ff00".toList := by decide
  have same : sameIgnoringCase (trim "#80fF4081 ".toList) (write ⟨0x80FF4081⟩) = true := by decide
  refine ⟨(readIff _ _).2 (.inl ⟨_, by decide, short⟩), ?_, same, inverse _ _ same⟩
  exact (value _ _ expands (by decide)).1

end Color

end OverlaySheet
