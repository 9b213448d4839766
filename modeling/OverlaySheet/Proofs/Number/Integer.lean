import OverlaySheet.Proofs.Number.Decimal

/-! Whole numbers as text: an optional sign and digits, and nothing else. -/

namespace OverlaySheet.Decimal

/-- A text is a whole number: digits, with a sign in front of them or without. -/
inductive IsInteger : Text → Int → Prop where
  | unsigned {digits : Text} : IsRow digits → IsInteger digits (digitsValue digits)
  | plus {digits : Text} : IsRow digits → IsInteger ('+' :: digits) (digitsValue digits)
  | minus {digits : Text} : IsRow digits → IsInteger ('-' :: digits) (-(digitsValue digits : Int))

/-- The check for digits asks for a row of them. -/
theorem isDigits_iff {text : Text} : isDigits text = true ↔ IsRow text := by
  -- An empty row is none, and so it is checked for.
  rw [isDigits, Bool.and_eq_true, List.all_eq_true]
  constructor
  · intro parts
    exact ⟨by simpa using parts.1, parts.2⟩
  · intro isRow
    exact ⟨by simpa using isRow.nonempty, isRow.digits⟩

/-- No sign is a digit. -/
theorem not_isRow_of_sign {sign : Char} {rest : Text} (isSign : sign = '-' ∨ sign = '+') :
    ¬ IsRow (sign :: rest) := by
  intro isRow
  -- It would be the first digit of the row.
  have digit : sign.isDigit = true := isRow.digits sign (List.mem_cons_self ..)
  rcases isSign with rfl | rfl
  · exact absurd digit (by decide)
  · exact absurd digit (by decide)

/-- A whole number is read from what is written as one, and from nothing else. -/
theorem readInt?_eq_some_iff {text : Text} {n : Int} :
    readInt? text = some n ↔ IsInteger text n := by
  constructor
  · intro read
    -- The reader takes a sign away if there is one, and asks for digits behind it.
    unfold readInt? takeSign at read
    split at read
    next negative digits taken =>
      split at taken
      all_goals
        obtain ⟨rfl, rfl⟩ := Prod.mk.inj taken
        simp only [Option.ite_none_right_eq_some, isDigits_iff, Option.some.injEq] at read
        obtain ⟨isRow, rfl⟩ := read
      · exact .minus isRow
      · exact .plus isRow
      · exact .unsigned isRow
  · intro isInteger
    -- One case for each way to write the sign, of which the reader takes two away.
    cases isInteger with
    | unsigned isRow =>
      have unsigned : takeSign text = (false, text) := by
        unfold takeSign
        split
        · exact absurd isRow (not_isRow_of_sign (.inl rfl))
        · exact absurd isRow (not_isRow_of_sign (.inr rfl))
        · rfl
      simp [readInt?, unsigned, isDigits_iff.2 isRow]
    | plus isRow => simp [readInt?, takeSign, isDigits_iff.2 isRow]
    | minus isRow => simp [readInt?, takeSign, isDigits_iff.2 isRow]

end OverlaySheet.Decimal
