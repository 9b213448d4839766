import OverlaySheet.Proofs.Text.Utf8

/-! The order of texts by their characters is the order of the bytes that they are written as. -/

namespace OverlaySheet.Utf8

/-- Two byte strings compare by their first bytes, and by the others when these are the same. -/
theorem cons_lt_cons_iff_toNat {a b : UInt8} {left right : Bytes} :
    a :: left < b :: right ↔ a.toNat < b.toNat ∨ a.toNat = b.toNat ∧ left < right := by
  rw [List.cons_lt_cons_iff, UInt8.lt_iff_toNat_lt, UInt8.toNat_inj]

/-- The last three digits of a number in base 64 are digits. -/
theorem sextets_small (n : Nat) : n / 4096 % 64 < 64 ∧ n / 64 % 64 < 64 ∧ n % 64 < 64 := by
  omega

/-- Of two numbers, the lower one has the lower digit where they first differ in base 64. -/
theorem sextets_lt {n m : Nat} (below : n < m) :
    n / 262144 < m / 262144 ∨ n / 262144 = m / 262144 ∧
      (n / 4096 % 64 < m / 4096 % 64 ∨ n / 4096 % 64 = m / 4096 % 64 ∧
        (n / 64 % 64 < m / 64 % 64 ∨ n / 64 % 64 = m / 64 % 64 ∧ n % 64 < m % 64)) := by
  -- A number is the sum of its digits at their places.
  have digits : ∀ k : Nat, k = 64 * (64 * (64 * (k / 262144) + k / 4096 % 64) + k / 64 % 64) +
      k % 64 := by omega
  have digitsN := digits n
  have digitsM := digits m
  have smallN := sextets_small n
  have smallM := sextets_small m
  generalize n / 262144 = a, n / 4096 % 64 = b, n / 64 % 64 = c, n % 64 = d at *
  generalize m / 262144 = a', m / 4096 % 64 = b', m / 64 % 64 = c', m % 64 = d' at *
  omega

/-- The first byte of a character is below the leads of all longer ones. -/
theorem exists_lead (c : Char) :
    ∃ a rest, String.utf8EncodeChar c = a :: rest ∧ (c.toNat ≤ 127 → a.toNat < 192) ∧
      (c.toNat ≤ 2047 → a.toNat < 224) ∧ (c.toNat ≤ 65535 → a.toNat < 240) := by
  have ranges := toNat_ranges c
  -- The lead is known for each of the four lengths, and its digit is limited by the range.
  by_cases one : c.toNat ≤ 127
  · refine ⟨_, _, encodeChar_one one, ?_⟩
    simp only [UInt8.toNat_ofNat']
    omega
  by_cases two : c.toNat ≤ 2047
  · refine ⟨_, _, encodeChar_two (by omega) two, ?_⟩
    simp only [UInt8.toNat_ofNat']
    omega
  by_cases three : c.toNat ≤ 65535
  · refine ⟨_, _, encodeChar_three (by omega) three, ?_⟩
    simp only [UInt8.toNat_ofNat']
    omega
  · -- The longest characters are above all three bounds.
    exact ⟨_, _, encodeChar_four (by omega), by omega, by omega, by omega⟩

/-- A character below another one is written as lower bytes, whatever comes behind the two. -/
theorem encodeChar_append_lt {c d : Char} (below : c.toNat < d.toNat) (left right : Bytes) :
    String.utf8EncodeChar c ++ left < String.utf8EncodeChar d ++ right := by
  obtain ⟨a, rest, bytes, leadOne, leadTwo, leadThree⟩ := exists_lead c
  have sextets := sextets_lt below
  have ranges := toNat_ranges d
  -- A shorter character has the lower lead, and one of the same length is compared by digits.
  by_cases one : d.toNat ≤ 127
  · rw [encodeChar_one (by omega), encodeChar_one one]
    simp only [List.cons_append, List.nil_append, cons_lt_cons_iff_toNat, UInt8.toNat_ofNat']
    omega
  by_cases two : d.toNat ≤ 2047
  · rw [encodeChar_two (by omega) two]
    by_cases shorter : c.toNat ≤ 127
    · rw [bytes]
      simp only [List.cons_append, cons_lt_cons_iff_toNat, UInt8.toNat_ofNat']
      omega
    · rw [encodeChar_two (by omega) (by omega)]
      simp only [List.cons_append, List.nil_append, cons_lt_cons_iff_toNat, UInt8.toNat_ofNat']
      omega
  by_cases three : d.toNat ≤ 65535
  · rw [encodeChar_three (by omega) three]
    by_cases shorter : c.toNat ≤ 2047
    · rw [bytes]
      simp only [List.cons_append, cons_lt_cons_iff_toNat, UInt8.toNat_ofNat']
      omega
    · rw [encodeChar_three (by omega) (by omega)]
      simp only [List.cons_append, List.nil_append, cons_lt_cons_iff_toNat, UInt8.toNat_ofNat']
      omega
  · have long : 65535 < d.toNat := by omega
    rw [encodeChar_four long]
    by_cases shorter : c.toNat ≤ 65535
    · rw [bytes]
      simp only [List.cons_append, cons_lt_cons_iff_toNat, UInt8.toNat_ofNat']
      omega
    · rw [encodeChar_four (by omega)]
      simp only [List.cons_append, List.nil_append, cons_lt_cons_iff_toNat, UInt8.toNat_ofNat']
      -- The first digit has fewer than eight values, so it is whole in the lead.
      have firstC : c.toNat / 262144 < 8 := by omega
      have firstD : d.toNat / 262144 < 8 := by omega
      have smallC := sextets_small c.toNat
      have smallD := sextets_small d.toNat
      generalize c.toNat / 262144 = c₁, c.toNat / 4096 % 64 = c₂, c.toNat / 64 % 64 = c₃,
        c.toNat % 64 = c₄ at *
      generalize d.toNat / 262144 = d₁, d.toNat / 4096 % 64 = d₂, d.toNat / 64 % 64 = d₃,
        d.toNat % 64 = d₄ at *
      clear ranges below
      omega

/-- A text below another one is written as lower bytes. -/
theorem encode_lt_encode {left right : Text} (below : left < right) :
    encode left < encode right := by
  induction left generalizing right with
  | nil =>
    -- Only a text with a character is above the empty one, and it is written as some byte.
    cases right with
    | nil => exact absurd below (List.not_lt_nil _)
    | cons d right =>
      obtain ⟨a, bytes, lead, _⟩ := exists_lead d
      rw [encode_cons, lead]
      exact List.nil_lt_cons _ _
  | cons c left ih =>
    cases right with
    | nil => exact absurd below (List.not_lt_nil _)
    | cons d right =>
      rcases List.cons_lt_cons_iff.1 below with lower | ⟨rfl, behind⟩
      · exact encodeChar_append_lt lower _ _
      · -- The same bytes in front leave the comparison to what comes behind them.
        rw [encode_cons, encode_cons]
        exact List.append_left_lt (ih behind)

end OverlaySheet.Utf8
