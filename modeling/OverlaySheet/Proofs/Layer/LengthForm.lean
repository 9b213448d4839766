import OverlaySheet.Proofs.Layer.Dimension
import OverlaySheet.Proofs.Layer.Readings

/-! The form of a length: a number and a unit, told apart in one way, and the number always read. -/

namespace OverlaySheet

namespace Decimal

/-- A numeral is made of digits and a point. -/
theorem IsNumeral.isDigit_or_point {numeral whole fraction : Text}
    (isNumeral : IsNumeral numeral whole fraction) :
    ∀ c ∈ numeral, c.isDigit = true ∨ c = '.' := by
  intro c member
  -- The point, if there is one, stands between two rows of digits.
  rcases isNumeral.form with rfl | ⟨rfl, _⟩
  · simp only [List.mem_append, List.mem_cons] at member
    rcases member with before | point | behind
    · exact .inl (isNumeral.wholeDigits c before)
    · exact .inr point
    · exact .inl (isNumeral.fractionDigits c behind)
  · exact .inl (isNumeral.wholeDigits c member)

/-- A minus sign is taken from in front of a numeral, and nothing is taken from the numeral. -/
theorem IsNumeral.takeSign_append {numeral whole fraction : Text}
    (isNumeral : IsNumeral numeral whole fraction) (negative : Bool) :
    takeSign ((if negative then ['-'] else []) ++ numeral) = (negative, numeral) := by
  cases negative with
  | true => rfl
  | false =>
    -- The first character is neither of the signs.
    obtain ⟨first, rest, rfl⟩ := List.exists_cons_of_ne_nil isNumeral.ne_nil
    have plain := isNumeral.isDigit_or_point first (List.mem_cons_self ..)
    simp only [Bool.false_eq_true, if_false, List.nil_append]
    unfold takeSign
    split
    · next same =>
      obtain ⟨rfl, _⟩ := List.cons.inj same
      exact absurd plain (by decide)
    · next same =>
      obtain ⟨rfl, _⟩ := List.cons.inj same
      exact absurd plain (by decide)
    · rfl

/-- A numeral with a minus sign or none is read, whatever its digits are. -/
theorem IsNumeral.read?_eq {numeral whole fraction : Text}
    (isNumeral : IsNumeral numeral whole fraction) (negative : Bool) :
    read? ((if negative then ['-'] else []) ++ numeral) =
      some (ofDigits negative whole fraction 0) := by
  -- Nothing is behind the numeral, so it is all taken.
  have stops : Stops [] := fun c first => nomatch first
  have alone : takePoint? numeral = some (whole, fraction, []) := by
    simpa using isNumeral.takePoint?_append stops
  rw [read?, isNumeral.takeSign_append negative]
  simp [alone, readExponent?]

end Decimal

namespace Dimension

open Decimal (IsNumeral IsRow)
open Text (trim)

/-- Digits, with a point and more digits behind them or without, or a point and digits alone. -/
inductive IsUnsigned : Text → Prop where
  | whole {digits : Text} : IsRow digits → IsUnsigned digits
  | pointed {digits places : Text} : IsRow digits → (∀ c ∈ places, c.isDigit = true) →
      IsUnsigned (digits ++ '.' :: places)
  | places {places : Text} : IsRow places → IsUnsigned ('.' :: places)

/-- The number of a length may have a minus sign in front, and no other sign. -/
inductive IsNumber : Text → Prop where
  | plain {unsigned : Text} : IsUnsigned unsigned → IsNumber unsigned
  | minus {unsigned : Text} : IsUnsigned unsigned → IsNumber ('-' :: unsigned)

/-- The five endings of a length, and the units that they name. -/
inductive NamesUnit : Text → LengthUnit → Prop where
  | none : NamesUnit [] .px
  | px : NamesUnit ['p', 'x'] .px
  | dp : NamesUnit ['d', 'p'] .dp
  | dip : NamesUnit ['d', 'i', 'p'] .dp
  | sp : NamesUnit ['s', 'p'] .sp

/-- A text is a number with an ending behind it that names a unit. -/
structure Splits (text number ending : Text) (unit : LengthUnit) : Prop where
  isNumber : IsNumber number
  names : NamesUnit ending unit
  joined : text = number ++ ending

/-- The number of 32 bits that a text denotes, if it is a numeral at all. -/
def readSingle? (text : Text) : Option Single :=
  (Decimal.read? text).map (Binary.ofDecimal .single)

/-- The three forms are those of a numeral, with the digits before and behind its point. -/
theorem isUnsigned_iff {text : Text} :
    IsUnsigned text ↔ ∃ whole fraction, IsNumeral text whole fraction := by
  constructor
  · intro isUnsigned
    -- A form tells which of the two parts may be empty.
    cases isUnsigned with
    | whole isRow =>
      exact ⟨text, [], isRow.digits, List.forall_mem_nil _, .inl isRow.nonempty, .inr ⟨rfl, rfl⟩⟩
    | @pointed digits places isRow all =>
      exact ⟨digits, places, isRow.digits, all, .inl isRow.nonempty, .inl rfl⟩
    | @places places isRow =>
      exact ⟨[], places, List.forall_mem_nil _, isRow.digits, .inr isRow.nonempty, .inl rfl⟩
  · intro parts
    obtain ⟨whole, fraction, isNumeral⟩ := parts
    rcases isNumeral.form with rfl | ⟨rfl, rfl⟩
    · -- Without digits before the point there are some behind it.
      by_cases none : whole = []
      · subst none
        have nonempty := isNumeral.nonempty.resolve_left (not_not_intro rfl)
        exact .places ⟨nonempty, isNumeral.fractionDigits⟩
      · exact .pointed ⟨none, isNumeral.wholeDigits⟩ isNumeral.fractionDigits
    · exact .whole ⟨isNumeral.nonempty.resolve_right (not_not_intro rfl), isNumeral.wholeDigits⟩

/-- A number is a numeral with a minus sign or none. -/
theorem isNumber_iff {text : Text} :
    IsNumber text ↔ ∃ (negative : Bool) (numeral whole fraction : Text),
      IsNumeral numeral whole fraction ∧ text = (if negative then ['-'] else []) ++ numeral := by
  constructor
  · intro isNumber
    -- There is a minus sign in one of the two cases and none in the other.
    cases isNumber with
    | plain isUnsigned =>
      obtain ⟨whole, fraction, isNumeral⟩ := isUnsigned_iff.1 isUnsigned
      exact ⟨false, _, whole, fraction, isNumeral, rfl⟩
    | minus isUnsigned =>
      obtain ⟨whole, fraction, isNumeral⟩ := isUnsigned_iff.1 isUnsigned
      exact ⟨true, _, whole, fraction, isNumeral, rfl⟩
  · intro parts
    obtain ⟨negative, numeral, whole, fraction, isNumeral, rfl⟩ := parts
    have isUnsigned := isUnsigned_iff.2 ⟨whole, fraction, isNumeral⟩
    cases negative with
    | true => exact .minus isUnsigned
    | false => exact .plain isUnsigned

/-- An ending names the unit that is read from it. -/
theorem namesUnit_iff {ending : Text} {unit : LengthUnit} :
    NamesUnit ending unit ↔ readUnit? ending = some unit := by
  constructor
  · intro names
    -- Each ending is computed.
    cases names with
    | none | px | dp | dip | sp => rfl
  · intro read
    -- There are no other endings than the five.
    rcases readUnit?_cases read with rfl | rfl | rfl | rfl | rfl
    all_goals obtain rfl := Option.some.inj read
    · exact .none
    · exact .px
    · exact .dp
    · exact .dip
    · exact .sp

/-- A number is always converted. -/
theorem exists_readSingle?_eq {number : Text} (isNumber : IsNumber number) :
    ∃ x, readSingle? number = some x := by
  -- The sign and the numeral are read whatever the digits are, and rounding always has a result.
  obtain ⟨negative, numeral, whole, fraction, isNumeral, rfl⟩ := isNumber_iff.1 isNumber
  exact ⟨_, by rw [readSingle?, isNumeral.read?_eq, Option.map_some]⟩

/-- A length is read from the number and the unit that a text splits into. -/
theorem Splits.readTrimmed?_eq {text number ending : Text} {unit : LengthUnit}
    (splits : Splits text number ending unit) :
    readTrimmed? text = (readSingle? number).map fun x => ⟨x, unit⟩ := by
  -- The parts are those that a written length is made of.
  obtain ⟨isNumber, names, rfl⟩ := splits
  obtain ⟨negative, numeral, whole, fraction, isNumeral, rfl⟩ := isNumber_iff.1 isNumber
  have isWritten : IsWritten ((if negative then ['-'] else []) ++ numeral ++ ending) negative whole
      fraction unit :=
    ⟨numeral, ending, isNumeral, namesUnit_iff.1 names, List.append_assoc ..⟩
  rw [isWritten.readTrimmed?_eq, readSingle?, isNumeral.read?_eq]
  rfl

/-- A text that a length is read from splits into a number and a unit. -/
theorem exists_splits_of_readTrimmed? {text : Text} {dimension : Dimension}
    (read : readTrimmed? text = some dimension) :
    ∃ number ending, Splits text number ending dimension.unit := by
  -- The number is the sign with its numeral, and the ending is what is left.
  obtain ⟨negative, whole, fraction, isWritten, _⟩ := isWritten_of_readTrimmed? read
  obtain ⟨numeral, ending, isNumeral, named, rfl⟩ := isWritten
  exact ⟨(if negative then ['-'] else []) ++ numeral, ending,
    isNumber_iff.2 ⟨negative, numeral, whole, fraction, isNumeral, rfl⟩, namesUnit_iff.2 named,
    (List.append_assoc ..).symm⟩

/-- A text splits in one way only. -/
theorem Splits.unique {text number ending number' ending' : Text} {unit unit' : LengthUnit}
    (splits : Splits text number ending unit) (splits' : Splits text number' ending' unit') :
    number = number' ∧ ending = ending' ∧ unit = unit' := by
  obtain ⟨isNumber, names, rfl⟩ := splits
  obtain ⟨isNumber', names', same⟩ := splits'
  obtain ⟨negative, numeral, whole, fraction, isNumeral, rfl⟩ := isNumber_iff.1 isNumber
  obtain ⟨negative', numeral', whole', fraction', isNumeral', rfl⟩ := isNumber_iff.1 isNumber'
  -- Behind the sign, the scan for a numeral stops at the ending, wherever that begins.
  have unsigned : numeral ++ ending = numeral' ++ ending' := by
    have left := isNumeral.takeMinus_append negative ending
    have right := isNumeral'.takeMinus_append negative' ending'
    rw [← List.append_assoc, same, List.append_assoc, right] at left
    exact (Prod.mk.inj left).2.symm
  have taken := isNumeral.takePoint?_append (stops_of_readUnit? (namesUnit_iff.1 names))
  rw [unsigned,
    isNumeral'.takePoint?_append (stops_of_readUnit? (namesUnit_iff.1 names'))] at taken
  simp only [Option.some.injEq, Prod.mk.injEq] at taken
  obtain ⟨_, _, rfl⟩ := taken
  refine ⟨List.append_cancel_right same, rfl, ?_⟩
  exact Option.some.inj ((namesUnit_iff.1 names).symm.trans (namesUnit_iff.1 names'))

/-- A length is read from a text when the text splits and the number is converted. -/
theorem read?_eq_some_iff_converts {text : String} {x : Single} {unit : LengthUnit} :
    read? text = some ⟨x, unit⟩ ↔
      ∃ number ending, Splits (trim text.toList) number ending unit ∧
        readSingle? number = some x := by
  constructor
  · -- The split comes first, and what is converted is its number.
    intro read
    obtain ⟨number, ending, splits⟩ := exists_splits_of_readTrimmed? read
    rw [read?, splits.readTrimmed?_eq] at read
    obtain ⟨y, converted, same⟩ := Option.map_eq_some_iff.1 read
    obtain ⟨rfl, _⟩ := Dimension.mk.inj same
    exact ⟨number, ending, splits, converted⟩
  · intro parts
    obtain ⟨number, ending, splits, converted⟩ := parts
    rw [read?, splits.readTrimmed?_eq, converted, Option.map_some]

/-- Some length is read from a text when the text splits. -/
theorem isSome_read?_iff {text : String} :
    (read? text).isSome = true ↔
      ∃ number ending unit, Splits (trim text.toList) number ending unit := by
  rw [Option.isSome_iff_exists]
  constructor
  · intro parts
    obtain ⟨⟨x, unit⟩, read⟩ := parts
    obtain ⟨number, ending, splits, _⟩ := read?_eq_some_iff_converts.1 read
    exact ⟨number, ending, unit, splits⟩
  · intro parts
    obtain ⟨number, ending, unit, splits⟩ := parts
    -- The number has a value, so nothing is left that could fail.
    obtain ⟨x, converted⟩ := exists_readSingle?_eq splits.isNumber
    exact ⟨⟨x, unit⟩, read?_eq_some_iff_converts.2 ⟨number, ending, splits, converted⟩⟩

/--
Which texts are lengths.

They are those that split into a number and a unit, blanks around them apart.
They split in one way, the number is always converted, and all other texts are cited in the failure.
-/
theorem lengths_are_numbers_with_units (text : String) :
    ((read? text).isSome = true ↔
      ∃ number ending unit, Splits (trim text.toList) number ending unit) ∧
    (∀ x unit, read? text = some ⟨x, unit⟩ ↔
      ∃ number ending, Splits (trim text.toList) number ending unit ∧
        readSingle? number = some x) ∧
    (∀ number, IsNumber number → ∃ x, readSingle? number = some x) ∧
    (∀ number ending unit number' ending' unit', Splits (trim text.toList) number ending unit →
      Splits (trim text.toList) number' ending' unit' →
        number = number' ∧ ending = ending' ∧ unit = unit') ∧
    ∀ failure, Layer.readDimension text = .error failure ↔
      (∀ number ending unit, ¬ Splits (trim text.toList) number ending unit) ∧
        failure = .untagged ("invalid dimension '" ++ text ++
          "', expected a number with an optional dp, sp or px unit") := by
  -- Each part is a lemma of its own, and the failure is that of the reader.
  refine ⟨isSome_read?_iff, fun _ _ => read?_eq_some_iff_converts,
    fun _ => exists_readSingle?_eq, fun _ _ _ _ _ _ => Splits.unique, fun failure => ?_⟩
  rw [Layer.decodes_dimension.error_iff, ← Option.not_isSome_iff_eq_none, isSome_read?_iff]
  simp only [not_exists]
  rfl

/-- A fraction alone is a number, and a blank before the unit makes a text no length. -/
theorem lengths_are_numbers_with_units_fraction :
    Splits (trim "\u3000-.50dip ".toList) "-.50".toList "dip".toList .dp ∧
      read? "\u3000-.50dip " = some ⟨.finite true 8388608 (-24), .dp⟩ ∧
      (∀ number ending unit, Splits (trim "\u3000-.50dip ".toList) number ending unit →
        "-.50".toList = number ∧ "dip".toList = ending ∧ .dp = unit) ∧
      ∀ number ending unit, ¬ Splits (trim "8 dp".toList) number ending unit := by
  -- The whole part may be missing where there is a fraction.
  have isNumber : IsNumber "-.50".toList := .minus (.places (Decimal.isDigits_iff.1 (by decide)))
  have splits : Splits (trim "\u3000-.50dip ".toList) "-.50".toList "dip".toList .dp :=
    ⟨isNumber, .dip, by decide⟩
  obtain ⟨_, converts, _, unique, _⟩ := lengths_are_numbers_with_units "\u3000-.50dip "
  -- Behind the blank there is no unit, so nothing is read.
  obtain ⟨_, _, _, _, fails⟩ := lengths_are_numbers_with_units "8 dp"
  have refused : Layer.readDimension "8 dp" =
      .error (.untagged (invalidMessage "8 dp")) := by rfl
  exact ⟨splits, (converts _ _).2 ⟨_, _, splits, by decide⟩,
    fun number ending unit => unique _ _ _ number ending unit splits, ((fails _).1 refused).1⟩

end Dimension

end OverlaySheet
