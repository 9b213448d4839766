import OverlaySheet.Proofs.Number.Ratio

/-! Rounding to a binary format: the form of what comes out, what is exact and what is infinite. -/

namespace OverlaySheet

namespace Precision

/-- A format that has numbers: some bits, and at least one scale. -/
structure Proper (precision : Precision) : Prop where
  bits : 0 < precision.bits
  scales : precision.minScale ≤ precision.maxScale

/-- The format of 32 bits has numbers. -/
theorem single_proper : single.Proper := ⟨by decide, by decide⟩

/--
The one form in which a finite number is kept.

The significand has all its bits or the scale is the least.
-/
structure Fits (precision : Precision) (significand : Nat) (scale : Int) : Prop where
  significand_lt : significand < 2 ^ precision.bits
  scale_ge : precision.minScale ≤ scale
  scale_le : scale ≤ precision.maxScale
  full : scale = precision.minScale ∨ 2 ^ (precision.bits - 1) ≤ significand

/-- The scale at which a magnitude is rounded, unless it gets one bit more. -/
def scaleFor (precision : Precision) (x : ℚ) : Int :=
  max precision.minScale (Int.log 2 x - precision.bits + 1)

/-- The least magnitude that is too great: half a place beyond the greatest number. -/
def ceiling (precision : Precision) : ℚ :=
  ((2 : ℚ) ^ precision.bits - 1 / 2) * (2 : ℚ) ^ precision.maxScale

/-- For 32 bits, the greatest number has 24 bits at the scale 104. -/
theorem single_ceiling : single.ceiling = (2 ^ 25 - 1) * 2 ^ 103 := by
  norm_num [ceiling, single]

variable {precision : Precision}

/-- There is half a place less than one bit more at the greatest scale. -/
theorem ceiling_bounds (precision : Precision) :
    (2 : ℚ) ^ precision.bits * (2 : ℚ) ^ (precision.maxScale - 1) ≤ precision.ceiling ∧
      precision.ceiling ≤ (2 : ℚ) ^ precision.bits * (2 : ℚ) ^ precision.maxScale := by
  have power : (0 : ℚ) < (2 : ℚ) ^ precision.maxScale := zpow_pos two_pos _
  have bits : (1 : ℚ) ≤ (2 : ℚ) ^ precision.bits := one_le_pow₀ one_le_two
  rw [ceiling, zpow_sub_one₀ two_ne_zero]
  -- The ceiling is half a place below the power, and the power is more than a place.
  constructor
  · calc (2 : ℚ) ^ precision.bits * ((2 : ℚ) ^ precision.maxScale * 2⁻¹)
      _ = (2 : ℚ) ^ precision.bits / 2 * (2 : ℚ) ^ precision.maxScale := by ring
      _ ≤ _ := mul_le_mul_of_nonneg_right (by linarith) power.le
  · exact mul_le_mul_of_nonneg_right (by linarith) power.le

/-- At its scale, a magnitude has no more bits than the significand. -/
theorem div_scaleFor_lt (precision : Precision) (x : ℚ) :
    x / (2 : ℚ) ^ precision.scaleFor x < (2 : ℚ) ^ precision.bits := by
  -- The scale is at least the logarithm less the bits, and the magnitude is below the next power.
  rw [div_lt_iff₀ (zpow_pos two_pos _), ← zpow_natCast, ← zpow_add₀ two_ne_zero]
  refine lt_of_lt_of_le (Int.lt_zpow_succ_log_self one_lt_two x) ?_
  rw [Nat.cast_ofNat]
  refine zpow_le_zpow_right₀ one_le_two ?_
  have := le_max_right precision.minScale (Int.log 2 x - precision.bits + 1)
  rw [scaleFor]
  omega

/-- Above the least scale it has as many. -/
theorem le_div_scaleFor (proper : precision.Proper) {x : ℚ} (positive : 0 < x)
    (above : precision.scaleFor x ≠ precision.minScale) :
    (2 : ℚ) ^ (precision.bits - 1) ≤ x / (2 : ℚ) ^ precision.scaleFor x := by
  -- Above the least scale, the scale is the logarithm less the bits.
  rw [le_div_iff₀ (zpow_pos two_pos _), ← zpow_natCast, ← zpow_add₀ two_ne_zero]
  refine le_trans ?_ (Int.zpow_log_le_self one_lt_two positive)
  rw [Nat.cast_ofNat]
  refine zpow_le_zpow_right₀ one_le_two ?_
  have := proper.bits
  rw [scaleFor] at above ⊢
  omega

/-- A number in its form is at its own scale. -/
theorem Fits.scaleFor_eq {significand : Nat} {scale : Int} (fits : precision.Fits significand scale)
    (positive : 0 < significand) :
    precision.scaleFor (significand * (2 : ℚ) ^ scale) = scale := by
  obtain ⟨lower, upper⟩ := log2_bounds positive
  have power : (0 : ℚ) < (2 : ℚ) ^ scale := zpow_pos two_pos _
  -- The logarithm of the number is that of the significand and the scale.
  -- The significand is between two powers, and the scale shifts both of them.
  have log : Int.log 2 ((significand : ℚ) * (2 : ℚ) ^ scale) = significand.log2 + scale := by
    apply log_eq_of_bounds
    · rw [zpow_add₀ two_ne_zero, zpow_natCast]
      exact mul_le_mul_of_nonneg_right lower power.le
    · rw [add_right_comm, zpow_add₀ two_ne_zero]
      refine mul_lt_mul_of_pos_right ?_ power
      exact_mod_cast upper
  have less : significand.log2 < precision.bits :=
    (Nat.log2_lt positive.ne').2 fits.significand_lt
  have least := fits.scale_ge
  rw [scaleFor, log]
  -- At the least scale the maximum decides, and elsewhere the number of bits does.
  rcases fits.full with same | full
  · omega
  · have enough : precision.bits - 1 ≤ significand.log2 := (Nat.le_log2 positive.ne').2 full
    omega

end Precision

namespace Binary

variable {precision : Precision}

/-- The number of a significand that may need one bit more, which the next scale takes up. -/
def place (precision : Precision) (negative : Bool) (significand : Nat) (scale : Int) :
    Binary precision :=
  if significand = 2 ^ precision.bits then
    if precision.maxScale < scale + 1 then .infinite negative
    else .finite negative (2 ^ (precision.bits - 1)) (scale + 1)
  else if precision.maxScale < scale then .infinite negative
  else .finite negative significand scale

/-- A number is infinite beyond the greatest scale, and at it when one bit more is needed. -/
theorem isFinite_place_iff {negative : Bool} {significand : Nat} {scale : Int} :
    (place precision negative significand scale).isFinite = true ↔
      scale < precision.maxScale ∨
        scale = precision.maxScale ∧ significand ≠ 2 ^ precision.bits := by
  unfold place
  -- There are four cases: one bit more or not, and beyond the greatest scale or not.
  split_ifs with carried overflow overflow
  · exact iff_of_false (by simp [isFinite]) (by omega)
  · exact iff_of_true rfl (by omega)
  · exact iff_of_false (by simp [isFinite]) (by omega)
  · exact iff_of_true rfl (by omega)

/-- The significand of a ratio that is rounded at a scale. -/
def roundedAt (ratio : Nat × Nat) (scale : Int) : Nat :=
  roundHalfEven (scaleDown 2 scale ratio).1 (scaleDown 2 scale ratio).2

/-- A positive ratio is rounded at its scale and then put into its place. -/
theorem ofRatio_eq_place {ratio : Nat × Nat} (above : 0 < ratio.1) (below : 0 < ratio.2)
    (negative : Bool) :
    ofRatio precision negative ratio =
      place precision negative (roundedAt ratio (precision.scaleFor (magnitude ratio)))
        (precision.scaleFor (magnitude ratio)) := by
  have sameScale : max precision.minScale (binaryExponent ratio - precision.bits + 1) =
      precision.scaleFor (magnitude ratio) := by
    rw [binaryExponent_eq_log above below, Precision.scaleFor]
  simp only [ofRatio, above.ne', if_false, sameScale, Nat.pow_eq, place, roundedAt]
  -- The bit that is carried over decides on both sides.
  split_ifs <;> rfl

/-- A ratio without a numerator is zero. -/
theorem ofRatio_of_eq_zero {ratio : Nat × Nat} (nothing : ratio.1 = 0) (negative : Bool) :
    ofRatio precision negative ratio = zero negative := by
  rw [ofRatio, if_pos nothing]

section Rounded

variable {ratio : Nat × Nat} (below : 0 < ratio.2)

include below

/-- A significand is beyond a whole number when the scaled ratio is beyond the half behind it. -/
theorem lt_roundedAt_iff (scale : Int) (m : Nat) :
    m < roundedAt ratio scale ↔
      (m : ℚ) + 1 / 2 < magnitude ratio / (2 : ℚ) ^ scale ∨
        (m : ℚ) + 1 / 2 = magnitude ratio / (2 : ℚ) ^ scale ∧ m % 2 = 1 := by
  -- Scaling divides the magnitude, and the rounding of ratios does the rest.
  rw [roundedAt, lt_roundHalfEven_iff (scaleDown_snd_pos Nat.two_pos scale below),
    magnitude_scaleDown Nat.two_pos, Nat.cast_ofNat]

/-- A significand needs at most one bit more than there are. -/
theorem roundedAt_le (precision : Precision) :
    roundedAt ratio (precision.scaleFor (magnitude ratio)) ≤ 2 ^ precision.bits := by
  -- The scaled magnitude is not above the power, so it is not rounded above it.
  refine roundHalfEven_le (scaleDown_snd_pos Nat.two_pos _ below) ?_
  rw [magnitude_scaleDown Nat.two_pos, Nat.cast_ofNat]
  exact_mod_cast (precision.div_scaleFor_lt (magnitude ratio)).le

/-- Above the least scale it has all of them. -/
theorem le_roundedAt (proper : precision.Proper) (above : 0 < ratio.1)
    (notLeast : precision.scaleFor (magnitude ratio) ≠ precision.minScale) :
    2 ^ (precision.bits - 1) ≤ roundedAt ratio (precision.scaleFor (magnitude ratio)) := by
  -- The scaled magnitude has all its bits already, and rounding loses none.
  refine le_roundHalfEven (scaleDown_snd_pos Nat.two_pos _ below) ?_
  rw [magnitude_scaleDown Nat.two_pos, Nat.cast_ofNat]
  exact_mod_cast Precision.le_div_scaleFor proper (magnitude_pos above below) notLeast

/-- One bit more is needed from half a place before it on, as that half is rounded up. -/
theorem roundedAt_eq_pow_iff {bits : Nat} (hasBits : 0 < bits) {scale : Int}
    (most : roundedAt ratio scale ≤ 2 ^ bits) :
    roundedAt ratio scale = 2 ^ bits ↔
      (2 : ℚ) ^ bits - 1 / 2 ≤ magnitude ratio / (2 : ℚ) ^ scale := by
  obtain ⟨half, isHalf⟩ := dvd_pow_self 2 hasBits.ne'
  have positive := Nat.two_pow_pos bits
  -- The number with all bits is odd, so the even one is behind it.
  have odd : (2 ^ bits - 1) % 2 = 1 := by omega
  have middle : ((2 ^ bits - 1 : ℕ) : ℚ) + 1 / 2 = (2 : ℚ) ^ bits - 1 / 2 := by
    rw [Nat.cast_sub Nat.one_le_two_pow]
    push_cast
    ring
  have carried := lt_roundedAt_iff below scale (2 ^ bits - 1)
  rw [middle, and_iff_left odd, ← le_iff_lt_or_eq] at carried
  rw [← carried]
  omega

/-- Equal ratios are rounded to the same number. -/
theorem ofRatio_congr {other : Nat × Nat} (otherBelow : 0 < other.2)
    (same : magnitude ratio = magnitude other) (negative : Bool) :
    ofRatio precision negative ratio = ofRatio precision negative other := by
  by_cases nothing : ratio.1 = 0
  · have alsoNothing : other.1 = 0 :=
      (magnitude_eq_zero_iff otherBelow).1 (same ▸ (magnitude_eq_zero_iff below).2 nothing)
    rw [ofRatio_of_eq_zero nothing, ofRatio_of_eq_zero alsoNothing]
  · have something : other.1 ≠ 0 := fun alsoNothing =>
      nothing ((magnitude_eq_zero_iff below).1
        (same ▸ (magnitude_eq_zero_iff otherBelow).2 alsoNothing))
    -- A rounded number is told by the whole numbers below it.
    have sameRounded : ∀ scale, roundedAt ratio scale = roundedAt other scale := fun scale =>
      eq_of_forall_lt_iff fun m => by
        rw [lt_roundedAt_iff below, lt_roundedAt_iff otherBelow, same]
    rw [ofRatio_eq_place (Nat.pos_of_ne_zero nothing) below,
      ofRatio_eq_place (Nat.pos_of_ne_zero something) otherBelow, same, sameRounded]

/-- What comes out of rounding is infinite or in the one form of its number. -/
theorem ofRatio_outcomes (proper : precision.Proper) (negative : Bool) :
    ofRatio precision negative ratio = .infinite negative ∨
      ∃ significand scale, ofRatio precision negative ratio = .finite negative significand scale ∧
        precision.Fits significand scale := by
  by_cases nothing : ratio.1 = 0
  · -- Zero is kept at the least scale.
    exact .inr ⟨0, precision.minScale, ofRatio_of_eq_zero nothing negative,
      Nat.two_pow_pos _, le_rfl, proper.scales, .inl rfl⟩
  have above := Nat.pos_of_ne_zero nothing
  have least : precision.minScale ≤ precision.scaleFor (magnitude ratio) := le_max_left _ _
  have most := roundedAt_le below precision
  have full := le_roundedAt below proper above
  rw [ofRatio_eq_place above below, place]
  -- Only their bounds matter from here on, not how the scale and the significand came about.
  generalize precision.scaleFor (magnitude ratio) = scale at *
  generalize roundedAt ratio scale = significand at *
  split_ifs with carried overflow overflow
  · exact .inl rfl
  · -- One bit more at one scale makes all bits at the next.
    have fewer : 2 ^ (precision.bits - 1) < 2 ^ precision.bits :=
      Nat.pow_lt_pow_right one_lt_two (Nat.sub_lt proper.bits one_pos)
    exact .inr ⟨_, _, rfl, fewer, by omega, by omega, .inr le_rfl⟩
  · exact .inl rfl
  · exact .inr ⟨_, _, rfl, by omega, least, by omega, or_iff_not_imp_left.2 full⟩

/-- A number in its form is rounded to itself. -/
theorem ofRatio_of_fits {significand : Nat} {scale : Int}
    (fits : precision.Fits significand scale)
    (exact : magnitude ratio = significand * (2 : ℚ) ^ scale) (negative : Bool) :
    ofRatio precision negative ratio = .finite negative significand scale := by
  rcases Nat.eq_zero_or_pos significand with rfl | positive
  · -- Zero has the least scale, as it has not all bits.
    have nothing : ratio.1 = 0 := (magnitude_eq_zero_iff below).1 (by simpa using exact)
    have least : scale = precision.minScale :=
      fits.full.resolve_right fun full => absurd full (Nat.two_pow_pos _).not_ge
    rw [ofRatio_of_eq_zero nothing, zero, least]
  · -- The other numbers are rounded at their own scale, where nothing is left to round.
    have above : 0 < ratio.1 := by
      refine Nat.pos_of_ne_zero fun nothing => ?_
      have isZero := exact ▸ (magnitude_eq_zero_iff below).2 nothing
      exact (mul_pos (Nat.cast_pos.2 positive) (zpow_pos two_pos scale)).ne' isZero
    have sameScale : precision.scaleFor (magnitude ratio) = scale :=
      exact ▸ fits.scaleFor_eq positive
    have sameSignificand : roundedAt ratio scale = significand := by
      refine roundHalfEven_of_magnitude_eq (scaleDown_snd_pos Nat.two_pos scale below) ?_
      rw [magnitude_scaleDown Nat.two_pos, exact, Nat.cast_ofNat]
      exact mul_div_cancel_right₀ _ (zpow_pos two_pos scale).ne'
    rw [ofRatio_eq_place above below, sameScale, sameSignificand, place,
      if_neg fits.significand_lt.ne, if_neg (not_lt.2 fits.scale_le)]

/-- A ratio is rounded to a finite number exactly when it is below the ceiling. -/
theorem isFinite_ofRatio_iff (proper : precision.Proper) (negative : Bool) :
    (ofRatio precision negative ratio).isFinite = true ↔ magnitude ratio < precision.ceiling := by
  obtain ⟨ceiling_ge, ceiling_le⟩ := precision.ceiling_bounds
  by_cases nothing : ratio.1 = 0
  · -- Zero is below any ceiling.
    rw [ofRatio_of_eq_zero nothing, (magnitude_eq_zero_iff below).2 nothing]
    refine iff_of_true rfl (lt_of_lt_of_le ?_ ceiling_ge)
    exact mul_pos (pow_pos two_pos _) (zpow_pos two_pos _)
  have above := Nat.pos_of_ne_zero nothing
  have short := precision.div_scaleFor_lt (magnitude ratio)
  have most := roundedAt_le below precision
  have long := Precision.le_div_scaleFor proper (magnitude_pos above below)
  rw [ofRatio_eq_place above below, isFinite_place_iff]
  generalize precision.scaleFor (magnitude ratio) = scale at *
  rw [div_lt_iff₀ (zpow_pos two_pos _)] at short
  rcases lt_trichotomy scale precision.maxScale with lower | rfl | higher
  · -- One scale further down, even one bit more would not be too great.
    refine iff_of_true (.inl lower) (lt_of_lt_of_le short (le_trans ?_ ceiling_ge))
    refine mul_le_mul_of_nonneg_left ?_ (pow_nonneg zero_le_two _)
    exact zpow_le_zpow_right₀ one_le_two (by omega)
  · -- At the greatest scale, it matters whether one bit more is needed.
    have carried := roundedAt_eq_pow_iff below proper.bits most
    rw [Precision.ceiling, ← div_lt_iff₀ (zpow_pos two_pos _), ← not_iff_not, not_lt, ← carried]
    simp
  · -- Beyond the greatest scale there are all bits, so the magnitude is too great.
    refine iff_of_false (by omega) (not_lt.2 (le_trans ceiling_le ?_))
    have notLeast : scale ≠ precision.minScale := by
      have := proper.scales
      omega
    have full := long notLeast
    rw [le_div_iff₀ (zpow_pos two_pos _)] at full
    refine le_trans ?_ full
    -- All bits one scale further on make up for one bit more at the greatest scale.
    calc (2 : ℚ) ^ precision.bits * (2 : ℚ) ^ precision.maxScale
      _ = (2 : ℚ) ^ (precision.bits - 1) * (2 : ℚ) ^ (precision.maxScale + 1) := by
        rw [← Nat.sub_add_cancel proper.bits, pow_succ, zpow_add_one₀ two_ne_zero,
          Nat.add_sub_cancel]
        ring
      _ ≤ (2 : ℚ) ^ (precision.bits - 1) * (2 : ℚ) ^ scale := by
        refine mul_le_mul_of_nonneg_left ?_ (pow_nonneg zero_le_two _)
        exact zpow_le_zpow_right₀ one_le_two higher

/-- A ratio that is at most half of the least number is rounded to zero. -/
theorem ofRatio_of_le (proper : precision.Proper)
    (tiny : magnitude ratio ≤ (2 : ℚ) ^ (precision.minScale - 1)) (negative : Bool) :
    ofRatio precision negative ratio = zero negative := by
  by_cases nothing : ratio.1 = 0
  · exact ofRatio_of_eq_zero nothing negative
  have above := Nat.pos_of_ne_zero nothing
  -- The ratio is rounded at the least scale, where it is at most a half.
  have least : precision.scaleFor (magnitude ratio) = precision.minScale := by
    -- The logarithm is below the least scale, so the maximum is that scale.
    have log : Int.log 2 (magnitude ratio) < precision.minScale := by
      refine (Int.lt_zpow_iff_log_lt one_lt_two (magnitude_pos above below)).1 ?_
      rw [Nat.cast_ofNat]
      exact lt_of_le_of_lt tiny (zpow_lt_zpow_right₀ one_lt_two (by omega))
    rw [Precision.scaleFor]
    omega
  have rounded : roundedAt ratio precision.minScale = 0 := by
    refine Nat.eq_zero_of_not_pos fun beyond => ?_
    -- Half a place is the most that there can be, and a half goes to the even neighbour.
    have half : magnitude ratio / (2 : ℚ) ^ precision.minScale ≤ 1 / 2 := by
      rw [div_le_iff₀ (zpow_pos two_pos _)]
      rwa [zpow_sub_one₀ two_ne_zero, ← one_div, mul_comm] at tiny
    rcases (lt_roundedAt_iff below _ 0).1 beyond with less | ⟨_, odd⟩
    · rw [Nat.cast_zero, zero_add] at less
      exact absurd less half.not_gt
    · cases odd
  rw [ofRatio_eq_place above below, least, rounded, place,
    if_neg (Nat.two_pow_pos _).ne, if_neg (not_lt.2 proper.scales), zero]

end Rounded

end Binary

end OverlaySheet
