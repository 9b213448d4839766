import Mathlib.Data.List.Basic
import OverlaySheet.Proofs.Text.Lines
import OverlaySheet.Proofs.Text.Utf8

/-! Lines of bytes: those of a text are its lines written one by one, and they decide on UTF-8. -/

namespace OverlaySheet.Utf8

/-- A byte of a character is the character itself, or above all characters of seven bits. -/
theorem toNat_of_mem_encodeChar {c : Char} {b : UInt8} (member : b ∈ String.utf8EncodeChar c) :
    b.toNat = c.toNat ∨ (128 ≤ b.toNat ∧ 128 ≤ c.toNat) := by
  -- Every byte of a longer sequence has its highest bit set.
  by_cases one : c.toNat ≤ 127
  · rw [encodeChar_one one, List.mem_singleton] at member
    rw [member, toNat_byte (by omega)]
    exact Or.inl rfl
  right
  refine ⟨?_, by omega⟩
  by_cases two : c.toNat ≤ 2047
  · rw [encodeChar_two (by omega) two] at member
    simp only [List.mem_cons, List.not_mem_nil, or_false] at member
    rcases member with rfl | rfl
    all_goals rw [toNat_byte (by omega)]; omega
  by_cases three : c.toNat ≤ 65535
  · rw [encodeChar_three (by omega) three] at member
    -- The lead and the bytes behind it are all above 127.
    simp only [List.mem_cons, List.not_mem_nil, or_false] at member
    rcases member with rfl | rfl | rfl
    all_goals rw [toNat_byte (by omega)]; omega
  · rw [encodeChar_four (by omega)] at member
    simp only [List.mem_cons, List.not_mem_nil, or_false] at member
    rcases member with rfl | rfl | rfl | rfl
    · have ranges := toNat_ranges c
      rw [toNat_byte (by omega)]
      omega
    all_goals rw [toNat_byte (by omega)]; omega

/-- A byte of seven bits among those of a character is the character. -/
theorem eq_of_mem_encodeChar {c : Char} (d : Char) (small : d.toNat ≤ 127)
    (member : UInt8.ofNat d.toNat ∈ String.utf8EncodeChar c) : c = d := by
  -- Only the two cases are left, and in the second one the byte is too great.
  rcases toNat_of_mem_encodeChar member with same | ⟨above, _⟩
  · rw [toNat_byte (by omega)] at same
    exact Char.toNat_inj.1 same.symm
  · rw [toNat_byte (by omega)] at above
    omega

/-- Only the empty text is written as no bytes. -/
@[simp] theorem encode_eq_nil_iff {text : Text} : encode text = [] ↔ text = [] := by
  -- Each character makes a byte at least.
  cases text with
  | nil => simp [encode]
  | cons c text => simp

/-- The byte of a newline is written for newlines alone. -/
@[simp] theorem newline_mem_encode_iff {text : Text} :
    (10 : UInt8) ∈ encode text ↔ '\n' ∈ text := by
  constructor
  · -- The byte is among those of some character, and only of this one.
    intro member
    obtain ⟨c, inText, inChar⟩ := List.mem_flatMap.1 member
    obtain rfl := eq_of_mem_encodeChar '\n' (by decide) inChar
    exact inText
  · intro member
    exact List.mem_flatMap.2 ⟨'\n', member, by decide⟩

/-- The bytes of a line end with a carriage return exactly when the line does. -/
theorem getLast?_encode_iff {line : Text} :
    (encode line).getLast? = some 13 ↔ line.getLast? = some '\r' := by
  -- The last byte belongs to the last character, and the empty text has neither.
  rcases List.eq_nil_or_concat line with rfl | ⟨front, c, rfl⟩
  · simp [encode]
  · have whole : encode (front ++ [c]) = encode front ++ String.utf8EncodeChar c := by
      simp [encode]
    rw [List.concat_eq_append, whole, List.getLast?_append_of_ne_nil _ String.utf8EncodeChar_ne_nil,
      List.getLast?_concat, Option.some.injEq]
    constructor
    · intro last
      exact eq_of_mem_encodeChar '\r' (by decide) (List.mem_of_getLast? last)
    · rintro rfl
      rfl

/-- A carriage return goes from the bytes of a line when it goes from the line. -/
theorem chomp_encode (line : Text) : chomp 13 (encode line) = encode (chomp '\r' line) := by
  by_cases last : line.getLast? = some '\r'
  · -- The last byte is taken off together with the last character.
    have lastByte := getLast?_encode_iff.2 last
    rw [chomp, chomp, if_pos lastByte, if_pos last]
    obtain ⟨front, rfl⟩ := List.getLast?_eq_some_iff.1 last
    have whole : encode (front ++ ['\r']) = encode front ++ [13] := by
      rw [encode_append]
      rfl
    rw [whole, List.dropLast_concat, List.dropLast_concat]
  · rw [chomp, chomp, if_neg (mt getLast?_encode_iff.1 last), if_neg last]

/-- The lines of the bytes of a text are the bytes of its lines. -/
theorem byteLines_encode (text : Text) : byteLines (encode text) = text.lines.map encode := by
  -- The induction cuts the text at its first newline, whose byte is the first such byte as well.
  induction text using newlineRec '\n' with
  | last line without =>
    rw [byteLines, splitLines_of_not_mem (mt newline_mem_encode_iff.1 without), Text.lines,
      splitLines_of_not_mem without]
    simp only [encode_eq_nil_iff]
    split
    · rfl
    · rfl
  | ended line rest without ih =>
    have whole : encode (line ++ '\n' :: rest) = encode line ++ 10 :: encode rest := by
      rw [encode_append]
      rfl
    rw [whole, byteLines, splitLines_append (mt newline_mem_encode_iff.1 without), Text.lines,
      splitLines_append without, List.map_cons, chomp_encode]
    exact congrArg _ ih

/-- Bytes are UTF-8 exactly when each of their lines is. -/
theorem valid_iff_byteLines {bytes : Bytes} :
    Valid bytes ↔ ∀ line ∈ byteLines bytes, Valid line := by
  constructor
  · rintro ⟨text, rfl⟩ line member
    rw [byteLines_encode] at member
    obtain ⟨textLine, _, rfl⟩ := List.mem_map.1 member
    exact ⟨textLine, rfl⟩
  · intro lines
    -- A line that is UTF-8 and a newline behind it put one more piece in front of the text.
    induction bytes using newlineRec (10 : UInt8) with
    | last line without =>
      by_cases empty : line = []
      · exact ⟨[], empty⟩
      · exact lines line (by simp [byteLines, splitLines_of_not_mem without, empty])
    | ended line rest without ih =>
      rw [byteLines, splitLines_append without] at lines
      obtain ⟨⟨first, first_eq⟩, others⟩ := List.forall_mem_cons.1 lines
      obtain ⟨behind, rfl⟩ := ih others
      -- The carriage return that the line may have lost is a character as well.
      rcases chomp_cases 13 line with whole | whole
      · exact ⟨first ++ '\n' :: behind, by rw [whole, first_eq, encode_append]; rfl⟩
      · exact ⟨first ++ '\r' :: '\n' :: behind, by
          rw [whole, first_eq, encode_append, List.append_assoc]
          rfl⟩

end OverlaySheet.Utf8
