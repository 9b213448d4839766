import OverlaySheet.Number.Shortest
import OverlaySheet.Proofs.Number.Decimal

/-! Numbers written in decimal digits: what is written is rounded to the number again. -/

namespace OverlaySheet

variable {precision : Precision} {significand : Nat} {scale : Int}

namespace Shortest

/-- The decimals with a given number of digits are taken only if they read back. -/
theorem readsBack_of_withDigits? {tie : TieRule} {count digits : Nat} {exponent : Int}
    (found : withDigits? precision tie significand scale count = some (digits, exponent)) :
    readsBack precision significand scale digits exponent = true := by
  simp only [withDigits?] at found
  split at found
  · next below above =>
    -- Both neighbours read back, whichever of them is preferred.
    obtain ⟨rfl, rfl⟩ := Prod.mk.inj (Option.some.inj found)
    split
    · exact above
    · exact below
  · next below _ =>
    -- Only one neighbour reads back, so it is the one that is taken.
    obtain ⟨rfl, rfl⟩ := Prod.mk.inj (Option.some.inj found)
    exact below
  · next _ above =>
    obtain ⟨rfl, rfl⟩ := Prod.mk.inj (Option.some.inj found)
    exact above
  · cases found

/-- The long decimal of a binary number is that number. -/
theorem magnitude_exact (significand : Nat) (scale : Int) (negative : Bool) :
    Decimal.magnitude ⟨negative, (exact significand scale).1, (exact significand scale).2⟩ =
      significand * (2 : ℚ) ^ scale := by
  simp only [Decimal.magnitude, exact, Nat.pow_eq, Nat.cast_mul, Nat.cast_pow, Nat.cast_ofNat]
  rcases Int.le_total 0 scale with whole | broken
  · -- A whole number has no powers of ten.
    have none : (-scale).toNat = 0 := by omega
    rw [none, min_eq_right whole, pow_zero, zpow_zero, mul_one, mul_one, ← zpow_natCast,
      Int.toNat_of_nonneg whole]
  · -- The powers of five make tens of the powers of two that divide.
    have none : scale.toNat = 0 := by omega
    have five : ((-scale).toNat : Int) = -scale := Int.toNat_of_nonneg (by omega)
    rw [none, min_eq_left broken, pow_zero, mul_one, ← zpow_natCast, five, mul_assoc]
    congr 1
    rw [show (10 : ℚ) = 5 * 2 by norm_num, mul_zpow, ← mul_assoc, ← zpow_add₀ (by norm_num),
      neg_add_cancel, zpow_zero, one_mul]

/-- The decimal of a number in its form reads back. -/
theorem ofDecimal_decimal (limited : precision.Limited) (fits : precision.Fits significand scale)
    (tie : TieRule) {digits : Nat} {exponent : Int}
    (taken : decimal precision tie significand scale = (digits, exponent)) :
    Binary.ofDecimal precision ⟨false, digits, exponent⟩ = .finite false significand scale := by
  rw [decimal] at taken
  cases found : (List.range maxDigits).findSome? fun count =>
    withDigits? precision tie significand scale (count + 1) with
  -- No short decimal reads back: the exact value of the number is written instead.
  | none =>
    rw [found, Option.getD_none] at taken
    refine Binary.ofDecimal_of_fits limited _ fits ?_
    simpa [taken] using magnitude_exact significand scale false
  -- The first number of digits that succeeds is taken, and what it gives has been read back.
  | some short =>
    obtain ⟨count, _, hit⟩ := List.exists_of_findSome?_eq_some found
    rw [found, Option.getD_some] at taken
    rw [taken] at hit
    exact eq_of_beq (readsBack_of_withDigits? hit)

end Shortest

namespace Decimal

/-- A row of digits is some digits and the zeros behind them. -/
theorem exists_closing_zeros (row : Text) :
    ∃ count, row = (row.reverse.dropWhile (· == '0')).reverse ++ List.replicate count '0' := by
  -- The zeros are those that stand at the front of the reversed row.
  refine ⟨(row.reverse.takeWhile (· == '0')).length, ?_⟩
  have zeros : row.reverse.takeWhile (· == '0') =
      List.replicate (row.reverse.takeWhile (· == '0')).length '0' :=
    List.eq_replicate_of_mem fun c member => by simpa using List.mem_takeWhile_imp member
  calc row
    _ = (row.reverse.takeWhile (· == '0') ++ row.reverse.dropWhile (· == '0')).reverse := by
      rw [List.takeWhile_append_dropWhile, List.reverse_reverse]
    _ = (row.reverse.dropWhile (· == '0')).reverse ++
        (row.reverse.takeWhile (· == '0')).reverse := List.reverse_append
    _ = _ := congrArg _ (by conv_lhs => rw [zeros, List.reverse_replicate])

/-- A row of digits that begins with the power of ten before a point. -/
def ofRow (negative : Bool) (row : Text) (first : Int) : Decimal :=
  ⟨negative, digitsValue row, first + 1 - row.length⟩

/-- Zeros behind a row of digits do not change its number. -/
theorem magnitude_ofRow_append_zeros (negative : Bool) (row : Text) (count : Nat) (first : Int) :
    (ofRow negative (row ++ List.replicate count '0') first).magnitude =
      (ofRow negative row first).magnitude := by
  -- Each zero multiplies the digits by ten and makes the exponent less by one.
  simp only [magnitude, ofRow, digitsValue_append, digitsValue_zeros, List.length_replicate,
    List.length_append, Nat.add_zero, Nat.cast_mul, Nat.cast_pow, Nat.cast_ofNat, Nat.cast_add]
  rw [mul_comm ((10 : ℚ) ^ count), mul_assoc, ← zpow_natCast, ← zpow_add₀ (by norm_num)]
  congr 2
  omega

/-- A zero is a row of digits. -/
theorem isRow_zero : IsRow ['0'] :=
  ⟨List.cons_ne_nil _ _, List.forall_mem_singleton.2 rfl⟩

/-- Digits with a point among them, which falls away when none come behind it. -/
def pointed (whole fraction : Text) : Text :=
  if fraction = [] then whole else whole ++ '.' :: fraction

/-- Such digits are a numeral. -/
theorem isNumeral_pointed {whole fraction : Text} (isRow : IsRow whole)
    (digits : ∀ c ∈ fraction, c.isDigit = true) :
    IsNumeral (pointed whole fraction) whole fraction := by
  -- The point is left out exactly when no digits follow it.
  refine ⟨isRow.digits, digits, .inl isRow.nonempty, ?_⟩
  rw [pointed]
  split
  · next none => exact .inr ⟨rfl, none⟩
  · exact .inl rfl

end Decimal

namespace NumberStyle

open Decimal (IsRow digitsValue ofRow pointed)

/-- The digits of a number in its form are rounded to it, wherever the point is. -/
theorem ofDecimal_digitsOf (limited : precision.Limited) (fits : precision.Fits significand scale)
    (tie : TieRule) {row : Text} {first : Int}
    (taken : digitsOf precision tie significand scale = (row, first)) :
    IsRow row ∧ Binary.ofDecimal precision (ofRow false row first) =
      .finite false significand scale := by
  rw [digitsOf] at taken
  -- Zero has no shortest decimal of its own, so it is written by a case of its own.
  split at taken
  · next isZero =>
    subst isZero
    obtain ⟨rfl, rfl⟩ := Prod.mk.inj taken
    refine ⟨Decimal.isRow_zero, Binary.ofDecimal_of_fits limited _ fits ?_⟩
    simp [Decimal.magnitude, ofRow, digitsValue]
  · next nonzero =>
    cases short : Shortest.decimal precision tie significand scale with
    | mk digits exponent =>
      rw [short] at taken
      obtain ⟨kept, begins⟩ := Prod.mk.inj taken
      obtain ⟨count, whole⟩ := Decimal.exists_closing_zeros (Nat.toDigits 10 digits)
      rw [kept] at whole
      -- The zeros that are left out do not count.
      have same : (ofRow false row first).magnitude =
          (⟨false, digits, exponent⟩ : Decimal).magnitude := by
        rw [← Decimal.magnitude_ofRow_append_zeros _ _ count, ← whole]
        simp only [Decimal.magnitude, ofRow, Decimal.digitsValue_toDigits, ← begins]
        congr 2
        omega
      have reads : Binary.ofDecimal precision (ofRow false row first) =
          .finite false significand scale := by
        rw [Binary.ofDecimal_congr limited _ same rfl]
        exact Shortest.ofDecimal_decimal limited fits tie short
      refine ⟨⟨?_, fun c member => ?_⟩, reads⟩
      · -- No digits at all would be rounded to zero.
        rintro rfl
        have zero : Binary.ofDecimal precision (ofRow false [] first) = .zero false := if_pos rfl
        exact nonzero (Binary.finite.inj (reads.symm.trans zero)).2.1
      · have inRow : c ∈ Nat.toDigits 10 digits := whole ▸ List.mem_append_left _ member
        exact Nat.isDigit_of_mem_toDigits (by decide) (by decide) inRow

/-- Zeros in the place of digits are digits. -/
theorem isDigit_zeros (count : Int) : ∀ c ∈ zeros count, c.isDigit = true := by
  -- A list that repeats zeros has no other member.
  intro c member
  rw [List.eq_of_mem_replicate member]
  rfl

/-- Plain text puts the point into the row of digits, or zeros between the two. -/
theorem writeOut_plain {row : Text} (isRow : IsRow row) (first : Int) :
    ∃ whole fraction, plain.writeOut row first = pointed whole fraction ∧ IsRow whole ∧
      (∀ c ∈ fraction, c.isDigit = true) ∧ ∀ negative,
        (Decimal.ofDigits negative whole fraction 0).magnitude =
          (ofRow negative row first).magnitude := by
  have bare : (if plain.keepsFraction then ['.', '0'] else []) = ([] : Text) := rfl
  rw [writeOut, bare]
  split_ifs with small great
  · -- Zeros come behind the point.
    refine ⟨['0'], zeros (-first - 1) ++ row, by simp [pointed, isRow.nonempty],
      Decimal.isRow_zero, List.forall_mem_append.2 ⟨isDigit_zeros _, isRow.digits⟩,
      fun negative => ?_⟩
    have leading : digitsValue (['0'] ++ (zeros (-first - 1) ++ row)) = digitsValue row := by
      rw [← List.append_assoc, Decimal.digitsValue_append, zeros, List.singleton_append,
        ← List.replicate_succ, Decimal.digitsValue_zeros, Nat.mul_zero, Nat.zero_add]
    rw [Decimal.magnitude, Decimal.ofDigits, leading, Decimal.magnitude, ofRow]
    simp only [zeros, List.length_append, List.length_replicate]
    congr 2
    omega
  · -- Zeros come before the point, which falls away.
    refine ⟨row ++ zeros (first + 1 - row.length), [], by simp [pointed],
      ⟨by simp [isRow.nonempty], List.forall_mem_append.2 ⟨isRow.digits, isDigit_zeros _⟩⟩,
      List.forall_mem_nil _, fun negative => ?_⟩
    rw [← Decimal.magnitude_ofRow_append_zeros negative row (first + 1 - row.length).toNat]
    simp only [Decimal.magnitude, Decimal.ofDigits, ofRow, zeros, List.append_nil,
      List.length_append, List.length_replicate, List.length_nil]
    congr 2
    omega
  · -- The point stands between two digits.
    have behind : row.drop (first + 1).toNat ≠ [] := by
      rw [ne_eq, List.drop_eq_nil_iff]
      omega
    have before : row.take (first + 1).toNat ≠ [] := by
      rw [ne_eq, List.take_eq_nil_iff]
      rintro (none | none)
      · omega
      · exact isRow.nonempty none
    refine ⟨row.take (first + 1).toNat, row.drop (first + 1).toNat, by simp [pointed, behind],
      ⟨before, fun c member => isRow.digits c (List.mem_of_mem_take member)⟩,
      fun c member => isRow.digits c (List.mem_of_mem_drop member), fun negative => ?_⟩
    simp only [Decimal.magnitude, Decimal.ofDigits, ofRow, List.take_append_drop,
      List.length_drop]
    congr 2
    omega

/-- Plain text of a number in its form: digits with a point that are rounded to it. -/
theorem write_plain (limited : precision.Limited) (fits : precision.Fits significand scale)
    (negative : Bool) :
    ∃ whole fraction, IsRow whole ∧ (∀ c ∈ fraction, c.isDigit = true) ∧
      plain.write (.finite negative significand scale : Binary precision) =
        (if negative then '-' :: pointed whole fraction else pointed whole fraction) ∧
      Binary.ofDecimal precision (Decimal.ofDigits negative whole fraction 0) =
        .finite negative significand scale := by
  cases taken : digitsOf precision plain.tie significand scale with
  | mk row first =>
    obtain ⟨isRow, reads⟩ := ofDecimal_digitsOf limited fits plain.tie taken
    obtain ⟨whole, fraction, written, isWhole, digits, same⟩ := writeOut_plain isRow first
    refine ⟨whole, fraction, isWhole, digits, ?_, ?_⟩
    · -- Plain text writes out all places.
      simp only [write, taken]
      change (if negative then '-' :: plain.writeOut row first else plain.writeOut row first) = _
      rw [written]
    · rw [Binary.ofDecimal_withSign limited]
      have unsigned : Binary.ofDecimal precision (Decimal.ofDigits false whole fraction 0) =
          .finite false significand scale := by
        rw [Binary.ofDecimal_congr limited _ (same false) rfl, reads]
      exact congrArg (Binary.withSign negative) unsigned

end NumberStyle

end OverlaySheet
