import Mathlib.Algebra.Order.Field.Basic
import Mathlib.Data.Int.Log
import Mathlib.Data.Rat.Cast.Order
import Mathlib.Data.Rat.Floor
import Mathlib.Tactic.Linarith
import Mathlib.Tactic.NormNum
import Mathlib.Tactic.Ring
import OverlaySheet.Number.Binary

/-! Ratios of whole numbers as rational numbers: scale, sign, and what they are rounded to. -/

namespace OverlaySheet

/-- The rational number that a ratio is. -/
def magnitude (ratio : Nat × Nat) : ℚ :=
  ratio.1 / ratio.2

/-- A ratio is positive when both its parts are. -/
theorem magnitude_pos {ratio : Nat × Nat} (above : 0 < ratio.1) (below : 0 < ratio.2) :
    0 < magnitude ratio :=
  div_pos (Nat.cast_pos.2 above) (Nat.cast_pos.2 below)

/-- A ratio is zero when its numerator is. -/
theorem magnitude_eq_zero_iff {ratio : Nat × Nat} (below : 0 < ratio.2) :
    magnitude ratio = 0 ↔ ratio.1 = 0 := by
  simp [magnitude, below.ne']

/-- A power with an exponent of either sign, as one power over another. -/
theorem zpow_eq_pow_div_pow {base : Nat} (positive : 0 < base) (exponent : Int) :
    (base : ℚ) ^ exponent = (base : ℚ) ^ exponent.toNat / (base : ℚ) ^ (-exponent).toNat := by
  have nonzero : (base : ℚ) ≠ 0 := Nat.cast_ne_zero.2 positive.ne'
  -- One of the two exponents is zero.
  rw [← zpow_natCast, ← zpow_natCast, ← zpow_sub₀ nonzero]
  congr 1
  omega

/-- Scaling a ratio down divides it by the power. -/
theorem magnitude_scaleDown {base : Nat} (positive : 0 < base) (exponent : Int)
    (ratio : Nat × Nat) :
    magnitude (scaleDown base exponent ratio) = magnitude ratio / (base : ℚ) ^ exponent := by
  simp only [magnitude, scaleDown, Nat.pow_eq, Nat.cast_mul, Nat.cast_pow]
  -- The power is split over both parts, as the scaled ratio is.
  rw [zpow_eq_pow_div_pow positive, mul_div_mul_comm, div_div_eq_mul_div, mul_div_assoc]

/-- A scaled ratio has a denominator if the ratio had one. -/
theorem scaleDown_snd_pos {base : Nat} (positive : 0 < base) (exponent : Int)
    {ratio : Nat × Nat} (below : 0 < ratio.2) : 0 < (scaleDown base exponent ratio).2 :=
  Nat.mul_pos below (Nat.pow_pos positive)

/-- The logarithm of a whole number is between two powers. -/
theorem log2_bounds {n : Nat} (positive : 0 < n) :
    (2 : ℚ) ^ n.log2 ≤ n ∧ (n : ℚ) < (2 : ℚ) ^ (n.log2 + 1) := by
  -- The logarithm is rounded down, so the next power is beyond the number.
  constructor
  · exact_mod_cast Nat.log2_self_le positive.ne'
  · exact_mod_cast Nat.lt_log2_self

/-- The logarithms of its parts tell a ratio's power of two up to one place. -/
theorem magnitude_bounds {ratio : Nat × Nat} (above : 0 < ratio.1) (below : 0 < ratio.2) :
    (2 : ℚ) ^ ((ratio.1.log2 : Int) - ratio.2.log2 - 1) ≤ magnitude ratio ∧
      magnitude ratio < (2 : ℚ) ^ ((ratio.1.log2 : Int) - ratio.2.log2 + 1) := by
  obtain ⟨above_ge, above_lt⟩ := log2_bounds above
  obtain ⟨below_ge, below_lt⟩ := log2_bounds below
  have belowPos : (0 : ℚ) < ratio.2 := Nat.cast_pos.2 below
  constructor
  · -- The denominator is below the next power of two.
    rw [magnitude, le_div_iff₀ belowPos]
    calc (2 : ℚ) ^ ((ratio.1.log2 : Int) - ratio.2.log2 - 1) * ratio.2
      _ ≤ (2 : ℚ) ^ ((ratio.1.log2 : Int) - ratio.2.log2 - 1) * (2 : ℚ) ^ (ratio.2.log2 + 1) :=
        mul_le_mul_of_nonneg_left below_lt.le (zpow_nonneg zero_le_two _)
      _ = (2 : ℚ) ^ ratio.1.log2 := by
        rw [← zpow_natCast, ← zpow_natCast, ← zpow_add₀ two_ne_zero]
        congr 1
        push_cast
        omega
      _ ≤ ratio.1 := above_ge
  · -- The numerator is below the next power of two.
    rw [magnitude, div_lt_iff₀ belowPos]
    calc (ratio.1 : ℚ)
      _ < (2 : ℚ) ^ (ratio.1.log2 + 1) := above_lt
      _ = (2 : ℚ) ^ ((ratio.1.log2 : Int) - ratio.2.log2 + 1) * (2 : ℚ) ^ ratio.2.log2 := by
        rw [← zpow_natCast, ← zpow_natCast, ← zpow_add₀ two_ne_zero]
        congr 1
        push_cast
        omega
      _ ≤ _ := mul_le_mul_of_nonneg_left below_ge (zpow_nonneg zero_le_two _)

/-- A logarithm is told by the two powers around a number. -/
theorem log_eq_of_bounds {x : ℚ} {exponent : Int} (lower : (2 : ℚ) ^ exponent ≤ x)
    (upper : x < (2 : ℚ) ^ (exponent + 1)) : Int.log 2 x = exponent := by
  -- The powers of two on both sides of the number put bounds on its logarithm.
  have positive : 0 < x := lt_of_lt_of_le (zpow_pos two_pos _) lower
  have least : exponent ≤ Int.log 2 x :=
    (Int.zpow_le_iff_le_log one_lt_two positive).1 (by exact_mod_cast lower)
  have greatest : Int.log 2 x < exponent + 1 :=
    (Int.lt_zpow_iff_log_lt one_lt_two positive).1 (by exact_mod_cast upper)
  omega

/-- A ratio is at least one exactly when its first part is not below the second. -/
theorem one_le_magnitude_iff {ratio : Nat × Nat} (below : 0 < ratio.2) :
    1 ≤ magnitude ratio ↔ ratio.2 ≤ ratio.1 := by
  rw [magnitude, one_le_div (Nat.cast_pos.2 below), Nat.cast_le]

/-- The greatest power of two that is not above a ratio is its logarithm. -/
theorem binaryExponent_eq_log {ratio : Nat × Nat} (above : 0 < ratio.1) (below : 0 < ratio.2) :
    binaryExponent ratio = Int.log 2 (magnitude ratio) := by
  obtain ⟨lower, upper⟩ := magnitude_bounds above below
  -- The test compares the ratio with the power of the estimate itself.
  have test := one_le_magnitude_iff
    (scaleDown_snd_pos Nat.two_pos ((ratio.1.log2 : Int) - ratio.2.log2) below)
  rw [magnitude_scaleDown Nat.two_pos, Nat.cast_ofNat, one_le_div (zpow_pos two_pos _)] at test
  rw [binaryExponent]
  split
  · next reached => exact (log_eq_of_bounds (test.2 reached) upper).symm
  · next missed =>
    -- The estimate was one too high.
    refine (log_eq_of_bounds lower ?_).symm
    rw [Int.sub_add_cancel]
    exact not_le.1 fun reached => missed (test.1 reached)

/-- A whole number is below the rounded ratio when the ratio is beyond the half behind it. -/
theorem lt_roundHalfEven_iff_nat {numerator denominator : Nat} (below : 0 < denominator)
    (m : Nat) :
    m < roundHalfEven numerator denominator ↔
      (2 * m + 1) * denominator < 2 * numerator ∨
        (2 * m + 1) * denominator = 2 * numerator ∧ m % 2 = 1 := by
  have whole := Nat.div_add_mod numerator denominator
  have short := Nat.mod_lt numerator below
  simp only [roundHalfEven]
  generalize numerator / denominator = quotient at *
  generalize numerator % denominator = rest at *
  -- The quotient and the rest take the place of the ratio, so that all that is left is linear.
  have twice : 2 * numerator = 2 * (denominator * quotient) + 2 * rest := by omega
  have product : (2 * m + 1) * denominator = 2 * (denominator * m) + denominator := by ring
  rw [product, twice]
  -- All that counts is on which side of the quotient the whole number is.
  rcases Nat.lt_trichotomy m quotient with less | rfl | more
  · have apart : denominator * m + denominator ≤ denominator * quotient :=
      Nat.mul_le_mul_left denominator less
    split_ifs <;> omega
  · -- At the quotient itself, the rest decides, and a half by which of the two is even.
    split_ifs <;> omega
  · have apart : denominator * quotient + denominator ≤ denominator * m :=
      Nat.mul_le_mul_left denominator more
    split_ifs <;> omega

/-- The same with the ratio as a rational number. -/
theorem lt_roundHalfEven_iff {ratio : Nat × Nat} (below : 0 < ratio.2) (m : Nat) :
    m < roundHalfEven ratio.1 ratio.2 ↔
      (m : ℚ) + 1 / 2 < magnitude ratio ∨ (m : ℚ) + 1 / 2 = magnitude ratio ∧ m % 2 = 1 := by
  have belowPos : (0 : ℚ) < ratio.2 := Nat.cast_pos.2 below
  have less : (m : ℚ) + 1 / 2 < magnitude ratio ↔ (2 * m + 1) * ratio.2 < 2 * ratio.1 := by
    -- The comparison is multiplied by the denominator, to leave whole numbers.
    rw [magnitude, lt_div_iff₀ belowPos, ← @Nat.cast_lt ℚ]
    push_cast
    constructor <;> intro _ <;> linarith
  have same : (m : ℚ) + 1 / 2 = magnitude ratio ↔ (2 * m + 1) * ratio.2 = 2 * ratio.1 := by
    rw [magnitude, eq_div_iff belowPos.ne', ← @Nat.cast_inj ℚ]
    push_cast
    constructor <;> intro _ <;> linarith
  rw [less, same, lt_roundHalfEven_iff_nat below]

/-- A ratio that is not below a whole number is not rounded below it. -/
theorem le_roundHalfEven {ratio : Nat × Nat} (below : 0 < ratio.2) {m : Nat}
    (atLeast : (m : ℚ) ≤ magnitude ratio) : m ≤ roundHalfEven ratio.1 ratio.2 := by
  -- Rounding below the whole number would leave out the number before it and its half.
  cases m with
  | zero => exact Nat.zero_le _
  | succ m =>
    refine (lt_roundHalfEven_iff below m).2 (.inl ?_)
    push_cast at atLeast
    linarith

/-- A ratio that is not above a whole number is not rounded above it. -/
theorem roundHalfEven_le {ratio : Nat × Nat} (below : 0 < ratio.2) {m : Nat}
    (atMost : magnitude ratio ≤ m) : roundHalfEven ratio.1 ratio.2 ≤ m := by
  -- Rounding beyond the whole number would need more than half a place.
  refine not_lt.1 fun beyond => ?_
  rcases (lt_roundHalfEven_iff below m).1 beyond with less | ⟨same, _⟩ <;> linarith

/-- A whole number is rounded to itself. -/
theorem roundHalfEven_of_magnitude_eq {ratio : Nat × Nat} (below : 0 < ratio.2) {m : Nat}
    (whole : magnitude ratio = m) : roundHalfEven ratio.1 ratio.2 = m :=
  le_antisymm (roundHalfEven_le below whole.le) (le_roundHalfEven below whole.ge)

namespace Binary

variable {precision : Precision}

/-- A number is above zero as the rational number that it is, or it is infinite without a sign. -/
inductive AboveZero : Binary precision → Prop where
  | finite {negative : Bool} {significand : Nat} {scale : Int}
      (above : 0 < (if negative then -1 else 1) * (significand * (2 : ℚ) ^ scale)) :
      AboveZero (.finite negative significand scale)
  | infinite : AboveZero (.infinite false)

/-- The test for it looks at the sign and the significand alone, as the scale is no matter. -/
theorem isPositive_iff {number : Binary precision} :
    number.isPositive = true ↔ number.AboveZero := by
  cases number with
  | finite negative significand scale =>
    have power : (0 : ℚ) < (2 : ℚ) ^ scale := zpow_pos two_pos _
    -- A power of two is above zero itself, whatever its exponent.
    have above : 0 < (significand : ℚ) * (2 : ℚ) ^ scale ↔ significand ≠ 0 := by
      rw [mul_pos_iff_of_pos_right power, Nat.cast_pos, Nat.pos_iff_ne_zero]
    cases negative with
    | true =>
      -- Behind a minus sign, nothing is above zero.
      have none : ¬ 0 < -1 * ((significand : ℚ) * (2 : ℚ) ^ scale) := by
        rw [neg_one_mul, neg_pos, not_lt]
        exact mul_nonneg (Nat.cast_nonneg _) power.le
      refine iff_of_false (by simp [isPositive]) fun aboveZero => ?_
      obtain ⟨positive⟩ := aboveZero
      exact none positive
    | false =>
      constructor
      · intro positive
        exact .finite (by simpa using above.2 (by simpa [isPositive] using positive))
      · intro aboveZero
        obtain ⟨positive⟩ := aboveZero
        simpa [isPositive] using above.1 (by simpa using positive)
  | infinite negative =>
    -- An infinite number is above zero when it has no minus sign.
    cases negative with
    | true => exact iff_of_false (by simp [isPositive]) nofun
    | false => exact iff_of_true rfl .infinite
  | notANumber => exact iff_of_false (by simp [isPositive]) nofun

instance (number : Binary precision) : Decidable number.AboveZero :=
  decidable_of_iff _ isPositive_iff

end Binary

end OverlaySheet
