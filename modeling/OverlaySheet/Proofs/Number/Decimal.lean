import Mathlib.Data.List.TakeWhile
import OverlaySheet.Number.Decimal
import OverlaySheet.Proofs.Number.Rounding

/-! Decimal numbers: what rows of digits denote, and to which binary numbers they are rounded. -/

namespace OverlaySheet

/-- The format has no magnitude beyond the limit for powers of ten. -/
structure Precision.Limited (precision : Precision) : Prop extends precision.Proper where
  great : precision.ceiling ≤ (10 : ℚ) ^ (Decimal.exponentLimit : Int)
  small : (10 : ℚ) ^ (-(Decimal.exponentLimit : Int)) ≤ (2 : ℚ) ^ (precision.minScale - 1)

/-- The limit is beyond all numbers of 32 bits. -/
theorem Precision.single_limited : Precision.single.Limited where
  toProper := single_proper
  -- Between the format and the limit there is room for a round power of ten on either side.
  great := calc single.ceiling
    _ ≤ (10 : ℚ) ^ (39 : Int) := by norm_num [ceiling, single]
    _ ≤ _ := zpow_le_zpow_right₀ (by norm_num) (by decide)
  small := calc (10 : ℚ) ^ (-(Decimal.exponentLimit : Int))
    _ ≤ (10 : ℚ) ^ (-46 : Int) := zpow_le_zpow_right₀ (by norm_num) (by decide)
    _ ≤ _ := by norm_num [single]

namespace Decimal

/-- The rational number that a decimal number is, apart from its sign. -/
def magnitude (decimal : Decimal) : ℚ :=
  decimal.digits * (10 : ℚ) ^ decimal.exponent

/-- Digits of which the first denote one number and the others another one. -/
@[simp] theorem digitsValue_append (left right : Text) :
    digitsValue (left ++ right) = 10 ^ right.length * digitsValue left + digitsValue right := by
  -- The fold over the second digits starts from the value of the first.
  have joined : digitsValue (left ++ right) = Nat.ofDigitChars 10 right (digitsValue left) :=
    Nat.ofDigitChars_append 0
  exact joined.trans Nat.ofDigitChars_eq_ofDigitChars_zero

/-- Zeros denote nothing. -/
@[simp] theorem digitsValue_zeros (count : Nat) : digitsValue (List.replicate count '0') = 0 :=
  Nat.ofDigitChars_replicate_zero.trans (Nat.mul_zero _)

/-- The digits of a number denote it. -/
@[simp] theorem digitsValue_toDigits (n : Nat) : digitsValue (Nat.toDigits 10 n) = n :=
  Nat.ofDigitChars_ten_toDigits

/-- A whole number has no more digits than the bound says. -/
theorem lt_pow_digitBound (n : Nat) : n < 10 ^ digitBound n :=
  calc n
    -- Three bits are less than a digit, so counting bits in threes never gives too few digits.
    _ < 2 ^ (n.log2 + 1) := Nat.lt_log2_self
    _ ≤ 2 ^ (3 * digitBound n) := Nat.pow_le_pow_right two_pos (by rw [digitBound]; omega)
    _ = 8 ^ digitBound n := Nat.pow_mul 2 3 _
    _ ≤ 10 ^ digitBound n := Nat.pow_le_pow_left (by omega) _

/-- A decimal number as a ratio. -/
theorem magnitude_scaleDown (decimal : Decimal) :
    OverlaySheet.magnitude (scaleDown 10 (-decimal.exponent) (decimal.digits, 1)) =
      decimal.magnitude := by
  -- To scale down by the negated exponent is to multiply by the power of ten.
  rw [OverlaySheet.magnitude_scaleDown (by decide), OverlaySheet.magnitude, magnitude, zpow_neg,
    div_inv_eq_mul]
  simp

/-- One or more decimal digits and nothing else. -/
structure IsRow (row : Text) : Prop where
  nonempty : row ≠ []
  digits : ∀ c ∈ row, c.isDigit = true

/-- A numeral is digits with at most one point among them, and a digit on one of its sides. -/
structure IsNumeral (numeral whole fraction : Text) : Prop where
  wholeDigits : ∀ c ∈ whole, c.isDigit = true
  fractionDigits : ∀ c ∈ fraction, c.isDigit = true
  nonempty : whole ≠ [] ∨ fraction ≠ []
  form : numeral = whole ++ '.' :: fraction ∨ numeral = whole ∧ fraction = []

/-- A text goes on with neither a digit nor a point. -/
def Stops (text : Text) : Prop :=
  ∀ c, text.head? = some c → c.isDigit = false ∧ c ≠ '.'

/-- Digits are taken up to where there are no more. -/
theorem spanDigits_append {digits rest : Text} (all : ∀ c ∈ digits, c.isDigit = true)
    (stops : ∀ c, rest.head? = some c → c.isDigit = false) :
    spanDigits (digits ++ rest) = (digits, rest) := by
  -- The search goes through all the digits and stops at the character behind them.
  rw [spanDigits, List.takeWhile_append_of_pos all, List.dropWhile_append_of_pos all]
  cases rest with
  | nil => simp
  | cons c rest => simp [stops c rfl]

/-- The digits that are taken are digits, and none follows. -/
theorem spanDigits_eq {text digits rest : Text} (taken : spanDigits text = (digits, rest)) :
    text = digits ++ rest ∧ ∀ c ∈ digits, c.isDigit = true := by
  -- What is taken and what is left make up the text.
  obtain ⟨rfl, rfl⟩ := Prod.mk.inj taken
  exact ⟨(List.takeWhile_append_dropWhile ..).symm, fun c => List.mem_takeWhile_imp⟩

/-- A numeral is read up to where a text stops. -/
theorem IsNumeral.takePoint?_append {numeral whole fraction suffix : Text}
    (isNumeral : IsNumeral numeral whole fraction) (stops : Stops suffix) :
    takePoint? (numeral ++ suffix) = some (whole, fraction, suffix) := by
  -- Behind the fraction, digits stop where the suffix begins.
  have afterFraction :=
    spanDigits_append isNumeral.fractionDigits fun c isFirst => (stops c isFirst).1
  have nonempty := isNumeral.nonempty
  rcases isNumeral.form with rfl | ⟨rfl, rfl⟩
  · -- The digits before the point end at it.
    have beforePoint : spanDigits (whole ++ ('.' :: (fraction ++ suffix))) =
        (whole, '.' :: (fraction ++ suffix)) :=
      spanDigits_append isNumeral.wholeDigits fun c isFirst => by
        obtain rfl := Option.some.inj isFirst
        rfl
    rw [List.append_assoc, List.cons_append, takePoint?, beforePoint]
    simp only [afterFraction]
    -- One of the two parts has digits, so the numeral is not refused.
    rw [if_neg]
    simpa [imp_iff_not_or] using nonempty
  · -- Without a point, the digits end where the text behind them begins.
    have whole := spanDigits_append isNumeral.wholeDigits fun c isFirst => (stops c isFirst).1
    rw [takePoint?, whole]
    cases suffix with
    | nil => simpa using nonempty
    | cons c suffix =>
      have noPoint := (stops c rfl).2
      simp only
      split
      · next rest same => exact absurd (List.cons.inj same).1 noPoint
      · simpa using nonempty

/-- What is read is a numeral with some text behind it. -/
theorem exists_numeral_of_takePoint? {text whole fraction suffix : Text}
    (taken : takePoint? text = some (whole, fraction, suffix)) :
    ∃ numeral, text = numeral ++ suffix ∧ IsNumeral numeral whole fraction := by
  rw [takePoint?] at taken
  cases first : spanDigits text with
  | mk before behind =>
    obtain ⟨rfl, digits⟩ := spanDigits_eq first
    rw [first] at taken
    simp only at taken
    split at taken
    · next afterPoint =>
      -- A point is taken with the digits behind it, if there is a digit on one of its sides.
      cases second : spanDigits afterPoint with
      | mk digitsBehind rest =>
        obtain ⟨rfl, moreDigits⟩ := spanDigits_eq second
        rw [second] at taken
        simp only [Bool.and_eq_true, List.isEmpty_iff, Option.ite_none_left_eq_some] at taken
        obtain ⟨nonempty, same⟩ := taken
        simp only [Option.some.injEq, Prod.mk.injEq] at same
        obtain ⟨rfl, rfl, rfl⟩ := same
        exact ⟨before ++ '.' :: digitsBehind, by simp, digits, moreDigits, not_and_or.1 nonempty,
          .inl rfl⟩
    · -- Without a point, the digits before it are all that is taken.
      simp only [List.isEmpty_iff, Option.ite_none_left_eq_some, Option.some.injEq,
        Prod.mk.injEq] at taken
      obtain ⟨nonempty, rfl, rfl, rfl⟩ := taken
      exact ⟨before, rfl, digits, List.forall_mem_nil _, .inl nonempty, .inr ⟨rfl, rfl⟩⟩

end Decimal

namespace Binary

variable {precision : Precision} {ratio : Nat × Nat}

/-- The number with a sign. -/
def withSign (negative : Bool) : Binary precision → Binary precision
  | .finite _ significand scale => .finite negative significand scale
  | .infinite _ => .infinite negative
  | .notANumber => .notANumber

/-- The sign is no matter of rounding. -/
theorem ofRatio_withSign (negative : Bool) (ratio : Nat × Nat) :
    ofRatio precision negative ratio = (ofRatio precision false ratio).withSign negative := by
  -- The sign is passed on to every outcome and decides none of them.
  simp only [ofRatio]
  split_ifs <;> rfl

/-- A ratio that is not below the ceiling is rounded to infinity. -/
theorem ofRatio_of_ceiling_le (proper : precision.Proper) (below : 0 < ratio.2)
    (great : precision.ceiling ≤ magnitude ratio) (negative : Bool) :
    ofRatio precision negative ratio = .infinite negative := by
  rcases ofRatio_outcomes below proper negative with infinite | ⟨_, _, finite, _⟩
  · exact infinite
  · -- A finite outcome would put the ratio below the ceiling.
    have isFinite : (ofRatio precision negative ratio).isFinite = true := by rw [finite]; rfl
    exact absurd ((isFinite_ofRatio_iff below proper negative).1 isFinite) (not_lt.2 great)

/-- A decimal number is rounded as any ratio of the same magnitude. -/
theorem ofDecimal_eq_ofRatio (limited : precision.Limited) (decimal : Decimal)
    (below : 0 < ratio.2) (same : magnitude ratio = decimal.magnitude) :
    ofDecimal precision decimal = ofRatio precision decimal.negative ratio := by
  rw [ofDecimal]
  split_ifs with nothing great small
  · -- Without digits both are zero, whatever the power of ten.
    have zero : ratio.1 = 0 := by
      rw [← magnitude_eq_zero_iff below, same, Decimal.magnitude, nothing]
      simp
    rw [ofRatio_of_eq_zero zero]
  · -- Even one digit is too much with such a power of ten.
    have one : (1 : ℚ) ≤ decimal.digits := Nat.one_le_cast.2 (Nat.pos_of_ne_zero nothing)
    refine (ofRatio_of_ceiling_le limited.toProper below ?_ _).symm
    calc precision.ceiling
      _ ≤ (10 : ℚ) ^ (Decimal.exponentLimit : Int) := limited.great
      _ ≤ (10 : ℚ) ^ decimal.exponent := zpow_le_zpow_right₀ (by norm_num) great.le
      _ ≤ decimal.digits * (10 : ℚ) ^ decimal.exponent :=
        le_mul_of_one_le_left (zpow_nonneg (by norm_num) _) one
      _ = magnitude ratio := same.symm
  · -- All digits there are do not make up for such a power of ten.
    refine (ofRatio_of_le below limited.toProper ?_ _).symm
    have fewer : (decimal.digits : ℚ) ≤ (10 : ℚ) ^ (Decimal.digitBound decimal.digits : Int) := by
      rw [zpow_natCast]
      exact_mod_cast (Decimal.lt_pow_digitBound decimal.digits).le
    calc magnitude ratio
      _ = decimal.digits * (10 : ℚ) ^ decimal.exponent := same
      _ ≤ (10 : ℚ) ^ (Decimal.digitBound decimal.digits : Int) * (10 : ℚ) ^ decimal.exponent :=
        mul_le_mul_of_nonneg_right fewer (zpow_nonneg (by norm_num) _)
      _ = (10 : ℚ) ^ (decimal.exponent + Decimal.digitBound decimal.digits) := by
        rw [← zpow_add₀ (by norm_num), add_comm]
      _ ≤ (10 : ℚ) ^ (-(Decimal.exponentLimit : Int)) :=
        zpow_le_zpow_right₀ (by norm_num) small.le
      _ ≤ (2 : ℚ) ^ (precision.minScale - 1) := limited.small
  · -- In between, the ratio that is rounded has the same magnitude.
    refine ofRatio_congr (scaleDown_snd_pos (by omega) _ one_pos) below ?_ _
    rw [Decimal.magnitude_scaleDown, same]

section Decimals

variable (limited : precision.Limited) (decimal : Decimal)

include limited

/-- A decimal number is rounded as its ratio. -/
theorem ofDecimal_eq :
    ofDecimal precision decimal =
      ofRatio precision decimal.negative (scaleDown 10 (-decimal.exponent) (decimal.digits, 1)) :=
  -- The number as a ratio is one of the ratios with its magnitude.
  ofDecimal_eq_ofRatio limited decimal (scaleDown_snd_pos (by omega) _ one_pos)
    (Decimal.magnitude_scaleDown decimal)

/-- Decimal numbers of one magnitude and sign are rounded to the same number. -/
theorem ofDecimal_congr {other : Decimal} (same : decimal.magnitude = other.magnitude)
    (sameSign : decimal.negative = other.negative) :
    ofDecimal precision decimal = ofDecimal precision other := by
  -- Both are rounded as one ratio.
  rw [ofDecimal_eq limited other, ← sameSign]
  refine ofDecimal_eq_ofRatio limited decimal (scaleDown_snd_pos (by omega) _ one_pos) ?_
  rw [Decimal.magnitude_scaleDown, same]

/-- The sign is no matter of rounding a decimal number. -/
theorem ofDecimal_withSign :
    ofDecimal precision decimal =
      (ofDecimal precision { decimal with negative := false }).withSign decimal.negative := by
  rw [ofDecimal_eq limited, ofDecimal_eq limited, ofRatio_withSign]

/-- What comes out of rounding is infinite or in the one form of its number. -/
theorem ofDecimal_outcomes :
    ofDecimal precision decimal = .infinite decimal.negative ∨
      ∃ significand scale,
        ofDecimal precision decimal = .finite decimal.negative significand scale ∧
          precision.Fits significand scale := by
  -- A decimal number is rounded as a ratio, so it has the outcomes of one.
  rw [ofDecimal_eq limited]
  exact ofRatio_outcomes (scaleDown_snd_pos (by omega) _ one_pos) limited.toProper _

/-- A decimal number is rounded to a finite number exactly when it is below the ceiling. -/
theorem isFinite_ofDecimal_iff :
    (ofDecimal precision decimal).isFinite = true ↔ decimal.magnitude < precision.ceiling := by
  -- A decimal number is rounded as a ratio, which is finite below the ceiling.
  rw [ofDecimal_eq limited,
    isFinite_ofRatio_iff (scaleDown_snd_pos (by omega) _ one_pos) limited.toProper,
    Decimal.magnitude_scaleDown]

/-- A decimal number that is a binary number in its form is rounded to it. -/
theorem ofDecimal_of_fits {significand : Nat} {scale : Int}
    (fits : precision.Fits significand scale)
    (exact : decimal.magnitude = significand * (2 : ℚ) ^ scale) :
    ofDecimal precision decimal = .finite decimal.negative significand scale := by
  -- The ratio that is rounded is the binary number already.
  rw [ofDecimal_eq limited]
  refine ofRatio_of_fits (scaleDown_snd_pos (by omega) _ one_pos) fits ?_ _
  rw [Decimal.magnitude_scaleDown, exact]

end Decimals

end Binary

end OverlaySheet
