import OverlaySheet.Layer.Dimension
import OverlaySheet.Proofs.Number.Shortest
import OverlaySheet.Proofs.Text.Pieces

/-! Lengths: how they are written, when they are finite, and that finite ones are read again. -/

namespace OverlaySheet

open Text (Solid Trimmed isBlank)

/-- A digit is neither a blank nor a minus sign. -/
theorem Text.plain_of_isDigit {c : Char} (digit : c.isDigit = true) :
    isBlank c = false ∧ c ≠ '-' := by
  obtain ⟨least, greatest⟩ := (Bool.and_eq_true _ _).mp digit
  have least : 48 ≤ c.toNat := of_decide_eq_true least
  have greatest : c.toNat ≤ 57 := of_decide_eq_true greatest
  constructor
  · -- The range of digits meets no range of blanks.
    refine Bool.eq_false_iff.2 fun blank => ?_
    simp only [isBlank, Text.blankRanges, List.any_cons, List.any_nil, Bool.or_eq_true,
      Bool.and_eq_true, decide_eq_true_eq, Bool.false_eq_true, or_false] at blank
    omega
  · -- The sign comes before the first digit.
    rintro rfl
    exact absurd least (by decide)

/-- So is no character of a numeral. -/
theorem Decimal.IsNumeral.plain {numeral whole fraction : Text}
    (isNumeral : IsNumeral numeral whole fraction) :
    ∀ c ∈ numeral, isBlank c = false ∧ c ≠ '-' := by
  -- The digits on both sides of the point are such characters, and the point is one as well.
  have before : ∀ c ∈ whole, isBlank c = false ∧ c ≠ '-' := fun c member =>
    Text.plain_of_isDigit (isNumeral.wholeDigits c member)
  have behind : ∀ c ∈ fraction, isBlank c = false ∧ c ≠ '-' := fun c member =>
    Text.plain_of_isDigit (isNumeral.fractionDigits c member)
  rcases isNumeral.form with rfl | ⟨rfl, _⟩
  · exact List.forall_mem_append.2 ⟨before, List.forall_mem_cons.2 ⟨by decide, behind⟩⟩
  · exact before

/-- A numeral has a digit at least. -/
theorem Decimal.IsNumeral.ne_nil {numeral whole fraction : Text}
    (isNumeral : IsNumeral numeral whole fraction) : numeral ≠ [] := by
  -- Without a fraction, it is the whole part that has digits.
  rcases isNumeral.form with rfl | ⟨rfl, noFraction⟩
  · simp
  · exact isNumeral.nonempty.resolve_right fun some => some noFraction

/-- In front of a numeral, a minus sign is taken away, and nothing else is. -/
theorem Decimal.IsNumeral.takeMinus_append {numeral whole fraction : Text}
    (isNumeral : IsNumeral numeral whole fraction) (negative : Bool) (suffix : Text) :
    Dimension.takeMinus ((if negative then ['-'] else []) ++ (numeral ++ suffix)) =
      (negative, numeral ++ suffix) := by
  cases negative with
  | true => rfl
  | false =>
    -- The numeral does not start with a sign.
    obtain ⟨c, rest, rfl⟩ := List.exists_cons_of_ne_nil isNumeral.ne_nil
    have unsigned := (isNumeral.plain c (List.mem_cons_self ..)).2
    simp only [Bool.false_eq_true, if_false, List.nil_append, List.cons_append, Dimension.takeMinus]
    split
    · next same => exact absurd (List.cons.inj same).1 unsigned
    · rfl

namespace Dimension

/-- A length is above zero when its number is. -/
theorem isPositive_iff {dimension : Dimension} :
    dimension.isPositive = true ↔ dimension.value.AboveZero :=
  Binary.isPositive_iff

/-- A text is written as a length: a minus sign or none, a numeral, and what names the unit. -/
def IsWritten (text : Text) (negative : Bool) (whole fraction : Text) (unit : LengthUnit) : Prop :=
  ∃ numeral suffix, Decimal.IsNumeral numeral whole fraction ∧ readUnit? suffix = some unit ∧
    text = (if negative then ['-'] else []) ++ (numeral ++ suffix)

/-- There are five ways to name a unit. -/
theorem readUnit?_cases {suffix : Text} {unit : LengthUnit}
    (named : readUnit? suffix = some unit) :
    suffix = [] ∨ suffix = "px".toList ∨ suffix = "dp".toList ∨ suffix = "dip".toList ∨
      suffix = "sp".toList := by
  simp only [readUnit?] at named
  -- The test is for one unit after the other.
  split_ifs at named with pixels density scaled
  · rcases pixels with rfl | rfl <;> decide
  · rcases density with rfl | rfl <;> decide
  · rw [scaled]
    decide

/-- No name of a unit starts with a digit or a point. -/
theorem stops_of_readUnit? {suffix : Text} {unit : LengthUnit}
    (named : readUnit? suffix = some unit) : Decimal.Stops suffix := by
  intro c first
  -- The names are tried one by one; the empty one has no first character.
  rcases readUnit?_cases named with rfl | rfl | rfl | rfl | rfl
  · cases first
  all_goals
    obtain rfl := Option.some.inj first
    decide

/-- No name of a unit has a blank. -/
theorem solid_of_readUnit? {suffix : Text} {unit : LengthUnit}
    (named : readUnit? suffix = some unit) : Solid suffix := by
  rcases readUnit?_cases named with rfl | rfl | rfl | rfl | rfl <;> decide

/-- A unit's own name names it. -/
@[simp] theorem readUnit?_name (unit : LengthUnit) : readUnit? unit.name.toList = some unit := by
  cases unit <;> decide

/-- Taking a minus sign away leaves what is behind it. -/
theorem takeMinus_eq {text unsigned : Text} {negative : Bool}
    (taken : takeMinus text = (negative, unsigned)) :
    text = (if negative then ['-'] else []) ++ unsigned := by
  -- Only a minus sign is taken, and nothing else changes the text.
  unfold takeMinus at taken
  split at taken
  · obtain ⟨rfl, rfl⟩ := Prod.mk.inj taken
    rfl
  · obtain ⟨rfl, rfl⟩ := Prod.mk.inj taken
    rfl

/-- A length is read from what is written as one. -/
theorem IsWritten.readTrimmed?_eq {text whole fraction : Text} {negative : Bool}
    {unit : LengthUnit} (isWritten : IsWritten text negative whole fraction unit) :
    readTrimmed? text =
      some ⟨.ofDecimal .single (Decimal.ofDigits negative whole fraction 0), unit⟩ := by
  -- Sign, numeral and unit are taken off in the order in which they are written.
  obtain ⟨numeral, suffix, isNumeral, named, rfl⟩ := isWritten
  have taken := isNumeral.takeMinus_append negative suffix
  have point := isNumeral.takePoint?_append (stops_of_readUnit? named)
  simp only [readTrimmed?, taken, point, named, Option.map_some]

/-- What a length is read from is written as one. -/
theorem isWritten_of_readTrimmed? {text : Text} {dimension : Dimension}
    (read : readTrimmed? text = some dimension) :
    ∃ negative whole fraction, IsWritten text negative whole fraction dimension.unit ∧
      dimension.value = .ofDecimal .single (Decimal.ofDigits negative whole fraction 0) := by
  rw [readTrimmed?] at read
  -- Each step of the reader leaves what the next one takes.
  cases minus : takeMinus text with
  | mk negative unsigned =>
    rw [minus] at read
    simp only at read
    split at read
    · cases read
    · next whole fraction suffix point =>
      obtain ⟨unit, named, rfl⟩ := Option.map_eq_some_iff.1 read
      obtain ⟨numeral, rfl, isNumeral⟩ := Decimal.exists_numeral_of_takePoint? point
      exact ⟨negative, whole, fraction,
        ⟨numeral, suffix, isNumeral, named, takeMinus_eq minus⟩, rfl⟩

/-- What is written of a finite length in its form is written as a length, and it is its number. -/
theorem isWritten_write {dimension : Dimension} {negative : Bool} {significand : Nat} {scale : Int}
    (finite : dimension.value = .finite negative significand scale)
    (fits : Precision.single.Fits significand scale) :
    ∃ whole fraction, IsWritten dimension.write negative whole fraction dimension.unit ∧
      Binary.ofDecimal .single (Decimal.ofDigits negative whole fraction 0) = dimension.value := by
  -- A finite number is written as a row with its fraction, and read again from it.
  obtain ⟨whole, fraction, isRow, digits, written, reads⟩ :=
    NumberStyle.write_plain Precision.single_limited fits negative
  refine ⟨whole, fraction, ⟨Decimal.pointed whole fraction, dimension.unit.name.toList,
    Decimal.isNumeral_pointed isRow digits, readUnit?_name _, ?_⟩, finite ▸ reads⟩
  rw [write, finite, written]
  cases negative <;> rfl

/-- What is written as a length has no blanks around it. -/
theorem IsWritten.trimmed {text whole fraction : Text} {negative : Bool} {unit : LengthUnit}
    (isWritten : IsWritten text negative whole fraction unit) : Trimmed text := by
  obtain ⟨numeral, suffix, isNumeral, named, rfl⟩ := isWritten
  refine Text.Solid.trimmed ?_ (by simp [isNumeral.ne_nil])
  -- There is not even a blank inside.
  have sign : Solid (if negative then ['-'] else []) := by cases negative <;> decide
  exact List.forall_mem_append.2
    ⟨sign, List.forall_mem_append.2
      ⟨fun c member => (isNumeral.plain c member).1, solid_of_readUnit? named⟩⟩

/-- A finite length in its form is read again from what is written of it. -/
theorem read?_write {dimension : Dimension} {negative : Bool} {significand : Nat} {scale : Int}
    (finite : dimension.value = .finite negative significand scale)
    (fits : Precision.single.Fits significand scale) :
    read? (String.ofList dimension.write) = some dimension := by
  -- Without blanks around it, nothing is trimmed from the written text.
  obtain ⟨whole, fraction, isWritten, reads⟩ := isWritten_write finite fits
  rw [read?, String.toList_ofList, Text.trim_of_trimmed isWritten.trimmed,
    isWritten.readTrimmed?_eq, reads]

/-- An infinite length is not read again, because it is written without digits. -/
theorem read?_write_of_infinite {dimension : Dimension} {negative : Bool}
    (infinite : dimension.value = .infinite negative) :
    read? (String.ofList dimension.write) = none := by
  obtain ⟨value, unit⟩ := dimension
  obtain rfl : value = .infinite negative := infinite
  -- There are two infinities and three units, and no written form has a digit in it.
  cases negative <;> cases unit <;> rfl

/-- All that is known about a length that is read. -/
theorem read?_outcomes {text : String} {dimension : Dimension}
    (read : read? text = some dimension) :
    ∃ negative whole fraction,
      IsWritten (Text.trim text.toList) negative whole fraction dimension.unit ∧
      (dimension.value.isFinite = true ↔
        (Decimal.ofDigits negative whole fraction 0).magnitude < (2 ^ 25 - 1) * 2 ^ 103) ∧
      dimension.value ≠ .notANumber ∧
      read? (String.ofList dimension.write) =
        if dimension.value.isFinite then some dimension else none := by
  obtain ⟨negative, whole, fraction, isWritten, value⟩ := isWritten_of_readTrimmed? read
  refine ⟨negative, whole, fraction, isWritten, ?_, ?_⟩
  · -- The magnitude of the digits is all that decides, as their sign is no matter.
    rw [value, Binary.isFinite_ofDecimal_iff Precision.single_limited, Precision.single_ceiling]
  · -- What comes out of rounding is infinite, or it is in the form that is read back.
    rcases Binary.ofDecimal_outcomes Precision.single_limited
      (Decimal.ofDigits negative whole fraction 0) with infinite | ⟨_, _, finite, fits⟩
    · rw [infinite] at value
      exact ⟨by simp [value], by rw [read?_write_of_infinite value, value]; rfl⟩
    · rw [finite] at value
      exact ⟨by simp [value], by rw [read?_write value fits, value]; rfl⟩

end Dimension

end OverlaySheet
