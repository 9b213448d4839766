import OverlaySheet.Number.Binary
import OverlaySheet.Text

/-! Decimal numerals: reading digits, signed whole numbers and numbers with a point. -/

namespace OverlaySheet

/-- A decimal number: its sign, its digits as a whole number, and the power of ten they count. -/
structure Decimal where
  negative : Bool
  digits : Nat
  exponent : Int
deriving DecidableEq

namespace Decimal

/-- The whole number that a row of decimal digits denotes. -/
def digitsValue (digits : Text) : Nat :=
  digits.foldl (fun value c => 10 * value + (c.toNat - '0'.toNat)) 0

/-- Whether the text is one or more digits and nothing else. -/
def isDigits (text : Text) : Bool :=
  !text.isEmpty && text.all Char.isDigit

/-- A sign that may stand in front of a number, and what follows it. -/
def takeSign : Text → Bool × Text
  | '-' :: rest => (true, rest)
  | '+' :: rest => (false, rest)
  | text => (false, text)

/-- A whole number with an optional sign. -/
def readInt? (text : Text) : Option Int :=
  let (negative, digits) := takeSign text
  if isDigits digits then
    some (if negative then -(digitsValue digits : Int) else digitsValue digits)
  else none

/-- The digits at the start of a text, and what follows them. -/
def spanDigits (text : Text) : Text × Text :=
  (text.takeWhile Char.isDigit, text.dropWhile Char.isDigit)

/--
Digits with an optional point, at least one digit standing on one side of it.

The result holds the digits before the point, those after it, and what follows.
-/
def takePoint? (text : Text) : Option (Text × Text × Text) :=
  let (whole, rest) := spanDigits text
  match rest with
  | '.' :: rest =>
    let (fraction, rest) := spanDigits rest
    if whole.isEmpty && fraction.isEmpty then none else some (whole, fraction, rest)
  | _ => if whole.isEmpty then none else some (whole, [], rest)

/-- The number that digits before and after a point denote, times a power of ten. -/
def ofDigits (negative : Bool) (whole fraction : Text) (exponent : Int) : Decimal :=
  ⟨negative, digitsValue (whole ++ fraction), exponent - fraction.length⟩

/-- A power of ten written after the letter `e` in either case; no text means power zero. -/
def readExponent? : Text → Option Int
  | [] => some 0
  | c :: rest => if c = 'e' ∨ c = 'E' then readInt? rest else none

/-- A number with an optional sign, point and power of ten. -/
def read? (text : Text) : Option Decimal :=
  let (negative, unsigned) := takeSign text
  match takePoint? unsigned with
  | some (whole, fraction, rest) =>
    (readExponent? rest).map (ofDigits negative whole fraction)
  | none => none

/-- An upper bound for the number of decimal digits of a whole number. -/
def digitBound (n : Nat) : Nat :=
  n.log2 / 3 + 1

/-- Powers of ten beyond this one overflow or vanish in every format in use. -/
def exponentLimit : Nat := 400

end Decimal

/-- The number of a binary format nearest to a decimal number. -/
def Binary.ofDecimal (precision : Precision) (decimal : Decimal) : Binary precision :=
  if decimal.digits = 0 then .zero decimal.negative
  -- The power of ten alone decides far outside of the range of the format.
  else if Decimal.exponentLimit < decimal.exponent then .infinite decimal.negative
  else if decimal.exponent + Decimal.digitBound decimal.digits < -Decimal.exponentLimit then
    .zero decimal.negative
  else .ofRatio precision decimal.negative (scaleDown 10 (-decimal.exponent) (decimal.digits, 1))

end OverlaySheet
