import Mathlib.Data.List.Induction
import Mathlib.Data.Nat.Digits.Defs
import OverlaySheet.Number.Hex

/-! Hex digits: what rows of them denote in either case, and that written numbers are read. -/

namespace OverlaySheet.Hex

/-- The sixteen digits in ascending order, in lower case. -/
def alphabet : Text := "0123456789abcdef".toList

/-- A hex digit is one of the sixteen, in either case. -/
def IsDigit (c : Char) : Prop :=
  c.toLower ∈ alphabet

instance (c : Char) : Decidable (IsDigit c) :=
  inferInstanceAs (Decidable (c.toLower ∈ alphabet))

/-- Whether all of a row are digits is asked of the row, and not of all characters. -/
instance (digits : Text) : Decidable (∀ c ∈ digits, IsDigit c) :=
  List.decidableBAll IsDigit digits

/-- The value of a digit is its place among the sixteen. -/
def digitValue (c : Char) : Nat :=
  alphabet.idxOf c.toLower

/-- The number that a row of digits denotes, the last of them counting ones. -/
def number (digits : Text) : Nat :=
  -- Values in a row are taken from the ones upwards, so the digits are turned round.
  Nat.ofDigits 16 (digits.map digitValue).reverse

/-- The value of a digit is below sixteen. -/
theorem digitValue_lt {c : Char} (isDigit : IsDigit c) : digitValue c < 16 := by
  -- A place in a list is below the list's length.
  exact List.idxOf_lt_length_of_mem isDigit

/-- Characters beyond ASCII have no lower case. -/
theorem toLower_of_not_ascii {c : Char} (beyond : 128 ≤ c.toNat) : c.toLower = c := by
  -- Only the letters from A to Z change, and they are in ASCII.
  have outside : ¬ (c.val ≥ 'A'.val ∧ c.val ≤ 'Z'.val) := by
    intro bounds
    have greatest : c.toNat ≤ 90 := UInt32.le_iff_toNat_le.1 bounds.2
    omega
  exact dif_neg outside

/-- A digit is read as its value, and nothing else is read. -/
theorem digit?_eq (c : Char) : digit? c = if IsDigit c then some (digitValue c) else none := by
  rcases Nat.lt_or_ge c.toNat 128 with ascii | beyond
  · -- There are few characters in ASCII, and each of them can be looked at.
    have each : ∀ n < 128, digit? (Char.ofNat n) =
        if IsDigit (Char.ofNat n) then some (digitValue (Char.ofNat n)) else none := by
      decide +kernel
    have here := each c.toNat ascii
    rwa [Char.ofNat_toNat] at here
  · -- Beyond it there are no digits, neither for the reader nor in the alphabet.
    have noDigit : ¬ IsDigit c := by
      intro isDigit
      rw [IsDigit, toLower_of_not_ascii beyond] at isDigit
      have small : (alphabet.all fun d => d.toNat < 128) = true := by decide
      have here := of_decide_eq_true (List.all_eq_true.1 small c isDigit)
      exact absurd here (Nat.not_lt.2 beyond)
    have notIn : ∀ last : Char, last.toNat < 128 → ¬ c ≤ last := by
      intro last small below
      have bound : c.toNat ≤ last.toNat := UInt32.le_iff_toNat_le.1 below
      omega
    have notDecimal : c.isDigit = false := by
      refine Bool.eq_false_iff.2 fun decimal => ?_
      exact notIn '9' (by decide) (of_decide_eq_true ((Bool.and_eq_true _ _).mp decimal).2)
    rw [if_neg noDigit, digit?, notDecimal]
    simp [notIn 'f' (by decide), notIn 'F' (by decide)]

/-- One more digit behind others makes these count sixteen times as much. -/
@[simp] theorem number_concat (digits : Text) (c : Char) :
    number (digits ++ [c]) = 16 * number digits + digitValue c := by
  -- Turned round, the last digit comes first and the others move up by one place.
  rw [number, List.map_append, List.reverse_append, List.map_singleton, List.reverse_singleton,
    List.singleton_append, Nat.ofDigits_cons, number]
  exact Nat.add_comm _ _

/-- A row of digits is read as the number it denotes, and nothing else is read. -/
@[simp] theorem value?_eq_some_iff {digits : Text} {n : Nat} :
    value? digits = some n ↔ (∀ c ∈ digits, IsDigit c) ∧ number digits = n := by
  -- The reader goes on from the number before, so the last digit is taken off.
  induction digits using List.reverseRecOn generalizing n with
  | nil => simp [value?, number]
  | append_singleton digits c ih =>
    have inTwo : value? (digits ++ [c]) =
        (value? digits).bind fun value => (digit? c).map (16 * value + ·) := by
      simp [value?, List.foldlM_append]
    rw [inTwo, number_concat, digit?_eq, List.forall_mem_append, List.forall_mem_singleton,
      Option.bind_eq_some_iff]
    -- A character that is no digit ends the reading, whatever stands before it.
    by_cases isDigit : IsDigit c
    · simp [isDigit, ih, and_assoc]
    · simp [isDigit]

/-- A row of so many digits denotes less than as many sixteens multiplied. -/
theorem number_lt {digits : Text} (all : ∀ c ∈ digits, IsDigit c) :
    number digits < 16 ^ digits.length := by
  -- The bound is that of any row in base sixteen.
  have small : ∀ value ∈ (digits.map digitValue).reverse, value < 16 := by
    intro value member
    obtain ⟨c, inRow, rfl⟩ := List.mem_map.1 (List.mem_reverse.1 member)
    exact digitValue_lt (all c inRow)
  have bound := Nat.ofDigits_lt_base_pow_length (by decide) small
  rwa [List.length_reverse, List.length_map] at bound

/-- Rows that differ in the case of letters alone are rows of digits together. -/
theorem forall_isDigit_congr {left right : Text}
    (same : left.map Char.toLower = right.map Char.toLower) :
    (∀ c ∈ left, IsDigit c) ↔ ∀ c ∈ right, IsDigit c := by
  -- Whether a character is a digit is asked of its lower case.
  have asked : ∀ row : Text, (∀ c ∈ row, IsDigit c) ↔ ∀ c ∈ row.map Char.toLower, c ∈ alphabet := by
    intro row
    simp [IsDigit]
  rw [asked left, asked right, same]

/-- They denote the same number. -/
theorem number_congr {left right : Text}
    (same : left.map Char.toLower = right.map Char.toLower) : number left = number right := by
  -- The value of a digit is looked up in lower case, so it is the same for both cases.
  have places : ∀ row : Text,
      row.map digitValue = (row.map Char.toLower).map (alphabet.idxOf ·) := by
    intro row
    rw [List.map_map]
    rfl
  rw [number, number, places left, places right, same]

/-- The digit of a value has that value. -/
theorem upperDigit_spec {value : Nat} (small : value < 16) :
    IsDigit (upperDigit value) ∧ digitValue (upperDigit value) = value := by
  -- There are sixteen values to look at.
  have each : ∀ n < 16, IsDigit (upperDigit n) ∧ digitValue (upperDigit n) = n := by decide
  exact each value small

/-- As many digits are written as are asked for. -/
@[simp] theorem length_write (count value : Nat) : (write count value).length = count := by
  -- Places are written from the last one on, one for each step of the recursion.
  induction count generalizing value with
  | zero => rfl
  | succ count ih =>
    have others : (places upperDigit count (value / 16)).length = count := ih (value / 16)
    simp [write, places, others]

/-- What is written of a number is a row of digits. -/
theorem isDigit_write (count value : Nat) : ∀ c ∈ write count value, IsDigit c := by
  -- The last digit is put behind those of the quotient.
  induction count generalizing value with
  | zero => exact List.forall_mem_nil _
  | succ count ih =>
    have last := (upperDigit_spec (Nat.mod_lt value (by decide : 0 < 16))).1
    exact List.forall_mem_append.2 ⟨ih (value / 16), List.forall_mem_singleton.2 last⟩

/-- What is written of a number denotes it, as far as the places reach. -/
@[simp] theorem number_write (count value : Nat) :
    number (write count value) = value % 16 ^ count := by
  -- The last place is the remainder, and the places before it are those of the quotient.
  induction count generalizing value with
  | zero => simp [write, places, number, Nat.mod_one]
  | succ count ih =>
    have last := (upperDigit_spec (Nat.mod_lt value (by decide : 0 < 16))).2
    calc number (write (count + 1) value)
      _ = 16 * number (write count (value / 16)) + digitValue (upperDigit (value % 16)) :=
        number_concat _ _
      _ = 16 * (value / 16 % 16 ^ count) + value % 16 := by rw [ih, last]
      _ = value % (16 * 16 ^ count) := by rw [Nat.mod_mul, Nat.add_comm]
      _ = value % 16 ^ (count + 1) := by rw [Nat.pow_succ, Nat.mul_comm]

end OverlaySheet.Hex
