import OverlaySheet.Text

/-! Bytes read as UTF-8, with the place and the extent of the first sequence that is none. -/

namespace OverlaySheet

/-- A byte string. -/
abbrev Bytes := List UInt8

namespace Utf8

/-- The first place where bytes stop being UTF-8. -/
structure Invalid where
  /-- How many bytes before it are well formed. -/
  index : Nat
  /-- How many bytes the wrong sequence has, or nothing when the bytes end inside a character. -/
  length : Option Nat
deriving DecidableEq

/-- The wording of the two ways in which bytes fail to be UTF-8. -/
def Invalid.message (invalid : Invalid) : String :=
  match invalid.length with
  | some length => s!"invalid utf-8 sequence of {length} bytes from index {invalid.index}"
  | none => s!"incomplete utf-8 byte sequence from index {invalid.index}"

/-- Bytes that may open a character of two or more bytes. -/
def isLead (a : UInt8) : Bool :=
  0xC2 ≤ a && a ≤ 0xF4

/-- Bytes that carry six bits of a character opened before. -/
def isContinuation (b : UInt8) : Bool :=
  0x80 ≤ b && b ≤ 0xBF

/-- The second byte is narrowed after four leads, which bars long forms, surrogates and excess. -/
def isSecond (a b : UInt8) : Bool :=
  if a = 0xE0 then 0xA0 ≤ b && b ≤ 0xBF
  else if a = 0xED then 0x80 ≤ b && b ≤ 0x9F
  else if a = 0xF0 then 0x90 ≤ b && b ≤ 0xBF
  else if a = 0xF4 then 0x80 ≤ b && b ≤ 0x8F
  else isContinuation b

/-- The payload of a lead, one of so many, joined with the six bits of each continuation. -/
def scalar (payloads : Nat) (a : UInt8) (continuations : List UInt8) : Char :=
  Char.ofNat (continuations.foldl (fun n b => 64 * n + b.toNat % 64) (a.toNat % payloads))

/-- Reads bytes that stand `index` bytes into their source. -/
def decodeFrom (index : Nat) : Bytes → Except Invalid Text
  | [] => .ok []
  | a :: rest =>
    if a < 0x80 then (Char.ofNat a.toNat :: ·) <$> decodeFrom (index + 1) rest
    else if !isLead a then .error ⟨index, some 1⟩
    else match rest with
      | [] => .error ⟨index, none⟩
      | b :: rest =>
        if !isSecond a b then .error ⟨index, some 1⟩
        else if a < 0xE0 then (scalar 32 a [b] :: ·) <$> decodeFrom (index + 2) rest
        else match rest with
          | [] => .error ⟨index, none⟩
          | c :: rest =>
            if !isContinuation c then .error ⟨index, some 2⟩
            else if a < 0xF0 then (scalar 16 a [b, c] :: ·) <$> decodeFrom (index + 3) rest
            else match rest with
              | [] => .error ⟨index, none⟩
              | d :: rest =>
                if !isContinuation d then .error ⟨index, some 3⟩
                else (scalar 8 a [b, c, d] :: ·) <$> decodeFrom (index + 4) rest

/-- The text that the bytes spell, or where they go wrong. -/
def decode (bytes : Bytes) : Except Invalid Text :=
  decodeFrom 0 bytes

end Utf8

/-- The lines of a byte string, each of them still bytes. -/
def byteLines (bytes : Bytes) : List Bytes :=
  splitLines 10 13 bytes

end OverlaySheet
