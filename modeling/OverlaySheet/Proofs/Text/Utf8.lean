import Mathlib.Tactic.SplitIfs
import OverlaySheet.Proofs.Outcome
import OverlaySheet.Text.Utf8

/-! UTF-8 read and written: bytes are read as a text exactly when they are what it is written as. -/

namespace OverlaySheet.Utf8

/-- The bytes that a text is written as. -/
def encode (text : Text) : Bytes :=
  text.flatMap String.utf8EncodeChar

/-- Bytes are UTF-8 when some text is written as them. -/
def Valid (bytes : Bytes) : Prop :=
  ∃ text, bytes = encode text

/-- The first character is written before the others. -/
@[simp] theorem encode_cons (c : Char) (text : Text) :
    encode (c :: text) = String.utf8EncodeChar c ++ encode text :=
  rfl

/-- Two texts in a row are written one after the other. -/
@[simp] theorem encode_append (left right : Text) :
    encode (left ++ right) = encode left ++ encode right :=
  List.flatMap_append

section Bytes

variable {a b : UInt8}

/-- A lead opens a character of two to four bytes. -/
theorem isLead_iff : isLead a = true ↔ 194 ≤ a.toNat ∧ a.toNat ≤ 244 := by
  simp [isLead, UInt8.le_iff_toNat_le]

/-- A continuation is one of the sixty-four bytes from the middle. -/
theorem isContinuation_iff : isContinuation b = true ↔ 128 ≤ b.toNat ∧ b.toNat ≤ 191 := by
  simp [isContinuation, UInt8.le_iff_toNat_le]

/-- A second byte is a continuation, which four of the leads narrow. -/
theorem isSecond_iff : isSecond a b = true ↔
    (128 ≤ b.toNat ∧ b.toNat ≤ 191) ∧ (a.toNat = 224 → 160 ≤ b.toNat) ∧
      (a.toNat = 237 → b.toNat ≤ 159) ∧ (a.toNat = 240 → 144 ≤ b.toNat) ∧
      (a.toNat = 244 → b.toNat ≤ 143) := by
  simp only [isSecond, isContinuation, ← UInt8.toNat_inj, UInt8.le_iff_toNat_le, UInt8.reduceToNat]
  -- The four leads are told apart one after the other.
  split_ifs <;> simp <;> omega

end Bytes

/-- The number of the character that has a number. -/
theorem toNat_ofNat {n : Nat} (valid : n.isValidChar) : (Char.ofNat n).toNat = n := by
  -- A number out of range would be replaced, and this one is valid.
  have inRange : Char.ofNat n = Char.ofNatAux n valid := dif_pos valid
  rw [inRange]
  rfl

/-- The number of a character is below the surrogates or above them, and has at most 21 bits. -/
theorem toNat_ranges (c : Char) :
    c.toNat < 55296 ∨ (57343 < c.toNat ∧ c.toNat < 1114112) :=
  c.valid

/-- A number below 256 is that of its byte. -/
theorem toNat_byte {n : Nat} (small : n < 256) : (UInt8.ofNat n).toNat = n :=
  UInt8.toNat_ofNat_of_lt' small

section Shapes

variable {c : Char} {a b d e : UInt8} {index : Nat} {rest : Bytes}

/-- A character of seven bits is written as one byte. -/
theorem encodeChar_one (high : c.toNat ≤ 127) :
    String.utf8EncodeChar c = [UInt8.ofNat c.toNat] := by
  simp [String.utf8EncodeChar, high]

/-- A character of eleven bits is written as two bytes. -/
theorem encodeChar_two (low : 127 < c.toNat) (high : c.toNat ≤ 2047) :
    String.utf8EncodeChar c =
      [UInt8.ofNat (c.toNat / 64 % 32 + 192), UInt8.ofNat (c.toNat % 64 + 128)] := by
  -- Each length is tested behind the shorter ones, so all of those have to be excluded.
  have notOne : ¬ c.toNat ≤ 127 := Nat.not_le.2 low
  simp [String.utf8EncodeChar, notOne, high]

/-- A character of sixteen bits is written as three bytes. -/
theorem encodeChar_three (low : 2047 < c.toNat) (high : c.toNat ≤ 65535) :
    String.utf8EncodeChar c =
      [UInt8.ofNat (c.toNat / 4096 % 16 + 224), UInt8.ofNat (c.toNat / 64 % 64 + 128),
        UInt8.ofNat (c.toNat % 64 + 128)] := by
  have notOne : ¬ c.toNat ≤ 127 := by omega
  have notTwo : ¬ c.toNat ≤ 2047 := Nat.not_le.2 low
  simp [String.utf8EncodeChar, notOne, notTwo, high]

/-- A character of more bits is written as four bytes. -/
theorem encodeChar_four (low : 65535 < c.toNat) :
    String.utf8EncodeChar c =
      [UInt8.ofNat (c.toNat / 262144 % 8 + 240), UInt8.ofNat (c.toNat / 4096 % 64 + 128),
        UInt8.ofNat (c.toNat / 64 % 64 + 128), UInt8.ofNat (c.toNat % 64 + 128)] := by
  -- Three shorter lengths are excluded before the last one is left.
  have notOne : ¬ c.toNat ≤ 127 := by omega
  have notTwo : ¬ c.toNat ≤ 2047 := by omega
  have notThree : ¬ c.toNat ≤ 65535 := Nat.not_le.2 low
  simp [String.utf8EncodeChar, notOne, notTwo, notThree]

/-- A byte of seven bits is read as a character. -/
theorem decodeFrom_one (single : a.toNat ≤ 127) :
    decodeFrom index (a :: rest) =
      (Char.ofNat a.toNat :: ·) <$> decodeFrom (index + 1) rest := by
  -- The first test of the decoder is for such a byte.
  have small : a.toNat < 128 := by omega
  rw [decodeFrom.eq_def]
  simp [UInt8.lt_iff_toNat_lt, small]

/-- A lead of two bytes and its second byte are read as a character. -/
theorem decodeFrom_two (low : 194 ≤ a.toNat) (high : a.toNat ≤ 223)
    (second : isSecond a b = true) :
    decodeFrom index (a :: b :: rest) =
      (scalar 32 a [b] :: ·) <$> decodeFrom (index + 2) rest := by
  -- A lead is no character by itself, and this one is followed by a single byte.
  have notOne : ¬ a.toNat < 128 := by omega
  have lead : isLead a = true := isLead_iff.2 (by omega)
  have two : a.toNat < 224 := by omega
  rw [decodeFrom.eq_def]
  simp [UInt8.lt_iff_toNat_lt, notOne, lead, second, two]

/-- A lead of three bytes and the two behind it are read as a character. -/
theorem decodeFrom_three (low : 224 ≤ a.toNat) (high : a.toNat ≤ 239)
    (second : isSecond a b = true) (third : isContinuation d = true) :
    decodeFrom index (a :: b :: d :: rest) =
      (scalar 16 a [b, d] :: ·) <$> decodeFrom (index + 3) rest := by
  -- The lead is told by its range, and the two bytes behind it are tested in turn.
  have notOne : ¬ a.toNat < 128 := by omega
  have lead : isLead a = true := isLead_iff.2 (by omega)
  have notTwo : ¬ a.toNat < 224 := by omega
  have three : a.toNat < 240 := by omega
  rw [decodeFrom.eq_def]
  simp [UInt8.lt_iff_toNat_lt, notOne, lead, second, notTwo, third, three]

/-- A lead of four bytes and the three behind it are read as a character. -/
theorem decodeFrom_four (low : 240 ≤ a.toNat) (high : a.toNat ≤ 244)
    (second : isSecond a b = true) (third : isContinuation d = true)
    (fourth : isContinuation e = true) :
    decodeFrom index (a :: b :: d :: e :: rest) =
      (scalar 8 a [b, d, e] :: ·) <$> decodeFrom (index + 4) rest := by
  -- No shorter length takes this lead, and the three bytes behind it are tested in turn.
  have notOne : ¬ a.toNat < 128 := by omega
  have lead : isLead a = true := isLead_iff.2 (by omega)
  have notTwo : ¬ a.toNat < 224 := by omega
  have notThree : ¬ a.toNat < 240 := by omega
  rw [decodeFrom.eq_def]
  simp [UInt8.lt_iff_toNat_lt, notOne, lead, second, notTwo, third, notThree, fourth]

end Shapes

/-- The bytes of a character are read as that character, whatever comes behind them. -/
theorem decodeFrom_encodeChar_append (index : Nat) (c : Char) (rest : Bytes) :
    ∃ next, decodeFrom index (String.utf8EncodeChar c ++ rest) =
      (c :: ·) <$> decodeFrom next rest := by
  have ranges := toNat_ranges c
  -- The length of the sequence is told by the number of the character.
  by_cases one : c.toNat ≤ 127
  · have byte : (UInt8.ofNat c.toNat).toNat = c.toNat := toNat_byte (by omega)
    refine ⟨index + 1, ?_⟩
    rw [encodeChar_one one, List.singleton_append, decodeFrom_one (by omega), byte,
      Char.ofNat_toNat]
  by_cases two : c.toNat ≤ 2047
  · have first : (UInt8.ofNat (c.toNat / 64 % 32 + 192)).toNat = c.toNat / 64 % 32 + 192 :=
      toNat_byte (by omega)
    have second : (UInt8.ofNat (c.toNat % 64 + 128)).toNat = c.toNat % 64 + 128 :=
      toNat_byte (by omega)
    have read : scalar 32 (UInt8.ofNat (c.toNat / 64 % 32 + 192))
        [UInt8.ofNat (c.toNat % 64 + 128)] = c := by
      simp only [scalar, List.foldl_cons, List.foldl_nil, first, second]
      rw [show 64 * ((c.toNat / 64 % 32 + 192) % 32) + (c.toNat % 64 + 128) % 64 = c.toNat by omega,
        Char.ofNat_toNat]
    refine ⟨index + 2, ?_⟩
    rw [encodeChar_two (by omega) two]
    simp only [List.cons_append, List.nil_append]
    rw [decodeFrom_two (by omega) (by omega) (isSecond_iff.2 (by omega)), read]
  by_cases three : c.toNat ≤ 65535
  · have first : (UInt8.ofNat (c.toNat / 4096 % 16 + 224)).toNat = c.toNat / 4096 % 16 + 224 :=
      toNat_byte (by omega)
    have second : (UInt8.ofNat (c.toNat / 64 % 64 + 128)).toNat = c.toNat / 64 % 64 + 128 :=
      toNat_byte (by omega)
    have third : (UInt8.ofNat (c.toNat % 64 + 128)).toNat = c.toNat % 64 + 128 :=
      toNat_byte (by omega)
    have read : scalar 16 (UInt8.ofNat (c.toNat / 4096 % 16 + 224))
        [UInt8.ofNat (c.toNat / 64 % 64 + 128), UInt8.ofNat (c.toNat % 64 + 128)] = c := by
      simp only [scalar, List.foldl_cons, List.foldl_nil, first, second, third]
      rw [show 64 * (64 * ((c.toNat / 4096 % 16 + 224) % 16) + (c.toNat / 64 % 64 + 128) % 64) +
          (c.toNat % 64 + 128) % 64 = c.toNat by omega, Char.ofNat_toNat]
    refine ⟨index + 3, ?_⟩
    rw [encodeChar_three (by omega) three]
    simp only [List.cons_append, List.nil_append]
    -- The narrowed second bytes are those of the characters that there are.
    rw [decodeFrom_three (by omega) (by omega) (isSecond_iff.2 (by omega))
      (isContinuation_iff.2 (by omega)), read]
  · -- The leads of four bytes have three bits for the first digit.
    have first : (UInt8.ofNat (c.toNat / 262144 % 8 + 240)).toNat = c.toNat / 262144 % 8 + 240 :=
      toNat_byte (by omega)
    have second : (UInt8.ofNat (c.toNat / 4096 % 64 + 128)).toNat = c.toNat / 4096 % 64 + 128 :=
      toNat_byte (by omega)
    have third : (UInt8.ofNat (c.toNat / 64 % 64 + 128)).toNat = c.toNat / 64 % 64 + 128 :=
      toNat_byte (by omega)
    have fourth : (UInt8.ofNat (c.toNat % 64 + 128)).toNat = c.toNat % 64 + 128 :=
      toNat_byte (by omega)
    have read : scalar 8 (UInt8.ofNat (c.toNat / 262144 % 8 + 240))
        [UInt8.ofNat (c.toNat / 4096 % 64 + 128), UInt8.ofNat (c.toNat / 64 % 64 + 128),
          UInt8.ofNat (c.toNat % 64 + 128)] = c := by
      simp only [scalar, List.foldl_cons, List.foldl_nil, first, second, third, fourth]
      rw [show 64 * (64 * (64 * ((c.toNat / 262144 % 8 + 240) % 8) +
          (c.toNat / 4096 % 64 + 128) % 64) + (c.toNat / 64 % 64 + 128) % 64) +
          (c.toNat % 64 + 128) % 64 = c.toNat by omega, Char.ofNat_toNat]
    refine ⟨index + 4, ?_⟩
    rw [encodeChar_four (by omega)]
    simp only [List.cons_append, List.nil_append]
    rw [decodeFrom_four (by omega) (by omega) (isSecond_iff.2 (by omega))
      (isContinuation_iff.2 (by omega)) (isContinuation_iff.2 (by omega)), read]

section Scalars

variable {a b d e : UInt8}

/-- Two bytes in order are what the character that they are read as is written as. -/
theorem encodeChar_scalar_two (low : 194 ≤ a.toNat) (high : a.toNat ≤ 223)
    (second : isSecond a b = true) :
    String.utf8EncodeChar (scalar 32 a [b]) = [a, b] := by
  -- The second byte holds the six lower bits, and the lead the five upper ones.
  obtain ⟨continuation, _⟩ := isSecond_iff.1 second
  have valid : (64 * (a.toNat % 32) + b.toNat % 64).isValidChar := Or.inl (by omega)
  have number : (scalar 32 a [b]).toNat = 64 * (a.toNat % 32) + b.toNat % 64 := toNat_ofNat valid
  rw [encodeChar_two (by omega) (by omega), number,
    show (64 * (a.toNat % 32) + b.toNat % 64) / 64 % 32 + 192 = a.toNat by omega,
    show (64 * (a.toNat % 32) + b.toNat % 64) % 64 + 128 = b.toNat by omega,
    UInt8.ofNat_toNat, UInt8.ofNat_toNat]

/-- Three bytes in order are what the character that they are read as is written as. -/
theorem encodeChar_scalar_three (low : 224 ≤ a.toNat) (high : a.toNat ≤ 239)
    (second : isSecond a b = true) (third : isContinuation d = true) :
    String.utf8EncodeChar (scalar 16 a [b, d]) = [a, b, d] := by
  have seconds := isSecond_iff.1 second
  have thirds := isContinuation_iff.1 third
  -- The narrowed second bytes keep long forms and surrogates out.
  have valid : (64 * (64 * (a.toNat % 16) + b.toNat % 64) + d.toNat % 64).isValidChar := by
    simp only [Nat.isValidChar]
    omega
  have number : (scalar 16 a [b, d]).toNat =
      64 * (64 * (a.toNat % 16) + b.toNat % 64) + d.toNat % 64 := toNat_ofNat valid
  rw [encodeChar_three (by omega) (by omega), number,
    show (64 * (64 * (a.toNat % 16) + b.toNat % 64) + d.toNat % 64) / 4096 % 16 + 224 = a.toNat by
      omega,
    show (64 * (64 * (a.toNat % 16) + b.toNat % 64) + d.toNat % 64) / 64 % 64 + 128 = b.toNat by
      omega,
    show (64 * (64 * (a.toNat % 16) + b.toNat % 64) + d.toNat % 64) % 64 + 128 = d.toNat by omega,
    UInt8.ofNat_toNat, UInt8.ofNat_toNat, UInt8.ofNat_toNat]

/-- Four bytes in order are what the character that they are read as is written as. -/
theorem encodeChar_scalar_four (low : 240 ≤ a.toNat) (high : a.toNat ≤ 244)
    (second : isSecond a b = true) (third : isContinuation d = true)
    (fourth : isContinuation e = true) :
    String.utf8EncodeChar (scalar 8 a [b, d, e]) = [a, b, d, e] := by
  have seconds := isSecond_iff.1 second
  have thirds := isContinuation_iff.1 third
  have fourths := isContinuation_iff.1 fourth
  -- The narrowed second bytes keep long forms and too large numbers out.
  have valid : (64 * (64 * (64 * (a.toNat % 8) + b.toNat % 64) + d.toNat % 64) +
      e.toNat % 64).isValidChar := by
    simp only [Nat.isValidChar]
    omega
  have number : (scalar 8 a [b, d, e]).toNat =
      64 * (64 * (64 * (a.toNat % 8) + b.toNat % 64) + d.toNat % 64) + e.toNat % 64 :=
    toNat_ofNat valid
  rw [encodeChar_four (by omega), number,
    show (64 * (64 * (64 * (a.toNat % 8) + b.toNat % 64) + d.toNat % 64) + e.toNat % 64) / 262144 %
      8 + 240 = a.toNat by omega,
    show (64 * (64 * (64 * (a.toNat % 8) + b.toNat % 64) + d.toNat % 64) + e.toNat % 64) / 4096 %
      64 + 128 = b.toNat by omega,
    show (64 * (64 * (64 * (a.toNat % 8) + b.toNat % 64) + d.toNat % 64) + e.toNat % 64) / 64 %
      64 + 128 = d.toNat by omega,
    show (64 * (64 * (64 * (a.toNat % 8) + b.toNat % 64) + d.toNat % 64) + e.toNat % 64) %
      64 + 128 = e.toNat by omega,
    UInt8.ofNat_toNat, UInt8.ofNat_toNat, UInt8.ofNat_toNat, UInt8.ofNat_toNat]

end Scalars

/-- Bytes that are read start with those of the first character, and the others are read too. -/
theorem decodeFrom_eq_ok_cases {index : Nat} {bytes : Bytes} {text : Text}
    (decoded : decodeFrom index bytes = .ok text) :
    (bytes = [] ∧ text = []) ∨ ∃ c more next rest, text = c :: more ∧
      bytes = String.utf8EncodeChar c ++ rest ∧ decodeFrom next rest = .ok more := by
  rw [decodeFrom.eq_def] at decoded
  cases bytes with
  | nil => exact Or.inl ⟨rfl, (Except.ok.inj decoded).symm⟩
  | cons a rest =>
    right
    simp only [UInt8.lt_iff_toNat_lt, UInt8.reduceToNat] at decoded
    -- The decoder is followed through its four lengths, and each byte that fails a test ends it.
    split at decoded
    · next one =>
      obtain ⟨more, others, rfl⟩ := map_eq_ok_iff.1 decoded
      have number : (Char.ofNat a.toNat).toNat = a.toNat := toNat_ofNat (Or.inl (by omega))
      refine ⟨_, more, _, rest, rfl, ?_, others⟩
      rw [encodeChar_one (by omega), number, UInt8.ofNat_toNat]
      rfl
    split at decoded
    · cases decoded
    next notOne lead =>
    have leads : 194 ≤ a.toNat ∧ a.toNat ≤ 244 := isLead_iff.1 (by simpa using lead)
    cases rest with
    | nil => cases decoded
    | cons b rest =>
      simp only at decoded
      split at decoded
      · cases decoded
      next second =>
      have second : isSecond a b = true := by simpa using second
      split at decoded
      · next two =>
        -- A lead below 224 has one byte behind it.
        obtain ⟨more, others, rfl⟩ := map_eq_ok_iff.1 decoded
        refine ⟨_, more, _, rest, rfl, ?_, others⟩
        rw [encodeChar_scalar_two (by omega) (by omega) second]
        rfl
      next notTwo =>
      cases rest with
      | nil => cases decoded
      | cons d rest =>
        simp only at decoded
        split at decoded
        · cases decoded
        next third =>
        have third : isContinuation d = true := by simpa using third
        split at decoded
        · next three =>
          -- A lead below 240 has two, and only the leads of four bytes are left then.
          obtain ⟨more, others, rfl⟩ := map_eq_ok_iff.1 decoded
          refine ⟨_, more, _, rest, rfl, ?_, others⟩
          rw [encodeChar_scalar_three (by omega) (by omega) second third]
          rfl
        next notThree =>
        cases rest with
        | nil => cases decoded
        | cons e rest =>
          simp only at decoded
          split at decoded
          · cases decoded
          next fourth =>
          have fourth : isContinuation e = true := by simpa using fourth
          obtain ⟨more, others, rfl⟩ := map_eq_ok_iff.1 decoded
          refine ⟨_, more, _, rest, rfl, ?_, others⟩
          rw [encodeChar_scalar_four (by omega) (by omega) second third fourth]
          rfl

/-- Reading bytes gives a text exactly when they are what the text is written as. -/
theorem decodeFrom_eq_ok_iff {index : Nat} {bytes : Bytes} {text : Text} :
    decodeFrom index bytes = .ok text ↔ bytes = encode text := by
  constructor
  · -- The text has a character for each sequence that was read.
    intro decoded
    induction text generalizing index bytes with
    | nil =>
      rcases decodeFrom_eq_ok_cases decoded with ⟨rfl, _⟩ | ⟨c, more, _, _, impossible, _⟩
      · rfl
      · cases impossible
    | cons c text ih =>
      rcases decodeFrom_eq_ok_cases decoded with ⟨_, impossible⟩ | ⟨_, _, _, _, same, rfl, others⟩
      · cases impossible
      · obtain ⟨rfl, rfl⟩ := List.cons.inj same
        rw [encode_cons, ih others]
  · rintro rfl
    induction text generalizing index with
    | nil => rfl
    | cons c text ih =>
      obtain ⟨next, read⟩ := decodeFrom_encodeChar_append index c (encode text)
      rw [encode_cons, read, ih]
      rfl

/-- Decoding undoes encoding, and gives nothing else. -/
theorem decode_eq_ok_iff {bytes : Bytes} {text : Text} :
    decode bytes = .ok text ↔ bytes = encode text :=
  decodeFrom_eq_ok_iff

instance (bytes : Bytes) : Decidable (Valid bytes) :=
  match decoded : decode bytes with
  | .ok text => isTrue ⟨text, decode_eq_ok_iff.1 decoded⟩
  | .error _ => isFalse fun ⟨_, same⟩ => nomatch decoded.symm.trans (decode_eq_ok_iff.2 same)

end OverlaySheet.Utf8
