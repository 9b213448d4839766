import OverlaySheet.Text

/-! Hexadecimal digits. -/

namespace OverlaySheet.Hex

/-- The value of a hex digit of either case. -/
def digit? (c : Char) : Option Nat :=
  if c.isDigit then some (c.toNat - '0'.toNat)
  else if 'a' ≤ c ∧ c ≤ 'f' then some (c.toNat - 'a'.toNat + 10)
  else if 'A' ≤ c ∧ c ≤ 'F' then some (c.toNat - 'A'.toNat + 10)
  else none

/-- The number that a row of hex digits denotes. -/
def value? (digits : Text) : Option Nat :=
  digits.foldlM (fun value c => (digit? c).map (16 * value + ·)) 0

/-- The lower-case digit of a value below sixteen. -/
def lowerDigit (value : Nat) : Char :=
  Nat.digitChar value

/-- The upper-case digit of a value below sixteen. -/
def upperDigit (value : Nat) : Char :=
  (Nat.digitChar value).toUpper

/-- The last places of a number, highest first, in the given digits. -/
def places (digit : Nat → Char) : Nat → Nat → Text
  | 0, _ => []
  | count + 1, value => places digit count (value / 16) ++ [digit (value % 16)]

/-- The last places of a number in upper-case digits. -/
def write (count value : Nat) : Text :=
  places upperDigit count value

/-- Bytes as two lower-case digits each. -/
def writeBytes (bytes : List UInt8) : Text :=
  bytes.flatMap fun byte => places lowerDigit 2 byte.toNat

/-- Two digits for each byte, read back. -/
def readBytes? : Text → Option (List UInt8)
  | [] => some []
  | [_] => none
  | high :: low :: rest => do
    let byte ← value? [high, low]
    let bytes ← readBytes? rest
    some (UInt8.ofNat byte :: bytes)

end OverlaySheet.Hex
