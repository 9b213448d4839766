import OverlaySheet.Json.Numeral
import OverlaySheet.Json.Printer
import OverlaySheet.Proofs.Number.Decimal

/-! Whole numbers in JSON: each that fits 64 bits is read back from its digits. -/

namespace OverlaySheet.Json

/-- The characters that may stand behind a value. -/
def endings : Text :=
  [',', ']', '\x7d', ' ', '\n', '\t', '\r']

/-- A text ends, or it goes on with what may stand behind a value. -/
def EndsValue (text : Text) : Prop :=
  ∀ c, text.head? = some c → c ∈ endings

/-- To fit into 64 bits, with a sign or without one, is to be between two powers of two. -/
theorem fitsWord_iff {n : Int} : fitsWord n = true ↔ -2 ^ 63 ≤ n ∧ n < 2 ^ 64 := by
  -- Both bounds are numbers here, so this is arithmetic.
  simp only [fitsWord, Number.leastSigned, Number.greatestUnsigned, Bool.and_eq_true,
    decide_eq_true_eq]
  omega

/-- The digits of a number above zero do not start with a zero. -/
theorem head?_toDigits {n : Nat} (positive : 0 < n) :
    (Nat.toDigits 10 n).head? ≠ some '0' := by
  -- The first digit stays the first when the last one is taken off.
  induction n using Nat.strongRecOn with
  | ind n ih =>
    rcases Nat.lt_or_ge n 10 with single | several
    · -- One digit is that number itself, and no digit above zero is a zero.
      have each : ∀ digit < 10, 0 < digit → Nat.digitChar digit ≠ '0' := by decide
      rw [Nat.toDigits_of_lt_base single]
      simpa using each n single positive
    · -- Of several digits, the first is that of the number without its last one.
      have front := ih (n / 10) (by omega) (by omega)
      rwa [Nat.toDigits_of_base_le (by decide) several,
        List.head?_append_of_ne_nil _ Nat.toDigits_ne_nil]

/-- No number is written with a zero in front of other digits. -/
theorem length_toDigits_of_head?_zero {n : Nat} (zero : (Nat.toDigits 10 n).head? = some '0') :
    (Nat.toDigits 10 n).length = 1 := by
  -- Only nought itself starts with a zero.
  have nothing : n = 0 := by
    refine Nat.eq_zero_of_not_pos fun positive => ?_
    exact head?_toDigits positive zero
  rw [nothing]
  rfl

section Ending

variable {rest : Text} (ends : EndsValue rest)

include ends

/-- No digit stands behind a value. -/
theorem EndsValue.not_isDigit : ∀ c, rest.head? = some c → c.isDigit = false := by
  intro c first
  -- None of the endings is a digit, which is checked one by one.
  have each : (endings.all fun ending => !ending.isDigit) = true := by decide
  simpa using List.all_eq_true.1 each c (ends c first)

/-- No point stands behind a value. -/
theorem EndsValue.takeFraction?_eq : takeFraction? rest = some (none, rest) := by
  -- What is behind a value is nothing, or it starts with an ending, and a point is none.
  cases rest with
  | nil => rfl
  | cons c rest =>
    have noPoint : c ≠ '.' := by
      rintro rfl
      exact absurd (ends '.' rfl) (by decide)
    simp [takeFraction?, noPoint]

/-- No power of ten stands behind a value. -/
theorem EndsValue.takeExponent?_eq : takeExponent? rest = some (none, rest) := by
  -- Neither letter for a power of ten is an ending.
  cases rest with
  | nil => rfl
  | cons c rest =>
    have noPower : ¬ (c = 'e' ∨ c = 'E') := by
      rintro (rfl | rfl)
      · exact absurd (ends 'e' rfl) (by decide)
      · exact absurd (ends 'E' rfl) (by decide)
    rw [takeExponent?, if_neg noPower]

/-- The digits of a number are taken as a whole number, with a minus sign or without. -/
theorem takeNumber?_digits (negative : Bool) (n : Nat) :
    takeNumber? ((if negative then ['-'] else []) ++ (Nat.toDigits 10 n ++ rest)) =
      some (wholeNumber negative (Nat.toDigits 10 n), rest) := by
  -- The digits are a row that is not empty and has no needless zero in front.
  have digits : ∀ c ∈ Nat.toDigits 10 n, c.isDigit = true := fun c =>
    Nat.isDigit_of_mem_toDigits (by decide) (by decide)
  have nonempty : (Nat.toDigits 10 n).isEmpty = false :=
    List.isEmpty_eq_false_iff.2 Nat.toDigits_ne_nil
  have noNeedlessZero : ((Nat.toDigits 10 n).head? == some '0' &&
      decide ((Nat.toDigits 10 n).length > 1)) = false := by
    refine Bool.eq_false_iff.2 fun needless => ?_
    simp only [Bool.and_eq_true, beq_iff_eq, decide_eq_true_eq] at needless
    have single := length_toDigits_of_head?_zero needless.1
    omega
  unfold takeNumber?
  split
  next signed unsigned taken =>
    -- Without a sign the first character is a digit, and so no minus sign is taken from it.
    have sign : signed = negative ∧ unsigned = Nat.toDigits 10 n ++ rest := by
      cases negative with
      | true => simpa [eq_comm] using taken
      | false =>
        split at taken
        · next same =>
          have minus : (Nat.toDigits 10 n).head? = some '-' := by
            simpa using congrArg List.head? same
          have digit := digits '-' (List.mem_of_head? minus)
          exact absurd digit (by decide)
        · simpa [eq_comm] using taken
    obtain ⟨rfl, rfl⟩ := sign
    -- Then the whole part is taken up to the ending, and there is no fraction and no power.
    simp only [Decimal.spanDigits_append digits ends.not_isDigit, nonempty, noNeedlessZero,
      Bool.false_or, ends.takeFraction?_eq]
    simp [ends.takeExponent?_eq]

end Ending

/-- The digits of a whole number that fits stand for it. -/
theorem wholeNumber_natAbs {n : Int} (fits : fitsWord n = true) :
    wholeNumber (decide (n < 0)) (Nat.toDigits 10 n.natAbs) = .integer n := by
  -- The sign and the digits of the magnitude make up the number.
  have signed : (if decide (n < 0) = true then -(n.natAbs : Int) else n.natAbs) = n := by
    simp only [decide_eq_true_eq]
    split <;> omega
  -- Zero has no minus sign.
  have noNegativeZero : (decide (n < 0) && n == 0) = false := by
    simp only [Bool.and_eq_false_iff, decide_eq_false_iff_not, beq_eq_false_iff_ne]
    omega
  simp only [wholeNumber, Decimal.digitsValue_toDigits, signed, fits, noNegativeZero]
  rfl

/-- Each whole number that fits is read back from its digits. -/
theorem takeNumber?_writeInt {n : Int} (fits : fitsWord n = true) {rest : Text}
    (ends : EndsValue rest) : takeNumber? (writeInt n ++ rest) = some (.integer n, rest) := by
  -- What is written is a minus sign or none, and the digits of the magnitude.
  have written : writeInt n ++ rest =
      (if decide (n < 0) then ['-'] else []) ++ (Nat.toDigits 10 n.natAbs ++ rest) := by
    by_cases negative : n < 0 <;> simp [writeInt, negative]
  rw [written, takeNumber?_digits ends, wholeNumber_natAbs fits]

end OverlaySheet.Json
