import OverlaySheet.Number.Decimal
import OverlaySheet.Value

/-! Numbers read from JSON text; fractions are scaled in steps that are rounded one by one. -/

namespace OverlaySheet.Json

/-- Appends digits to a significand while it fits 64 bits, and counts the digits from there on. -/
def appendFitting (significand : Nat) : Text → Nat × Nat
  | [] => (significand, 0)
  | c :: rest =>
    let next := 10 * significand + (c.toNat - '0'.toNat)
    -- Behind the first digit that does not fit, digits are only counted.
    if next ≤ Number.greatestUnsigned then appendFitting next rest
    else (significand, rest.length + 1)

/-- The greatest power of ten among the numbers of 64 bits. -/
def maxPower : Nat := 308

/-- A power of ten. -/
def powerOfTen (exponent : Nat) : Double :=
  .ofDecimal .double ⟨false, 1, exponent⟩

/-- A number divided by the greatest power of ten as often as asked for. -/
def divideDown : Nat → Double → Double
  | 0, x => x
  | count + 1, x => divideDown count (x.divide (powerOfTen maxPower))

/-- A significand is nothing after this many divisions by the greatest power of ten. -/
def maxDivisions : Nat := 3

/-- A significand times a power of ten, where each step on the way is rounded. -/
def scaleTen (negative : Bool) (significand : Nat) (exponent : Int) : Double :=
  let x : Double := .ofRatio .double negative (significand, 1)
  let places := exponent.natAbs
  if exponent < 0 then
    -- No power of ten above the greatest is a number, so the division goes in steps.
    let divisions := (places - 1) / maxPower
    (divideDown (min divisions maxDivisions) x).divide (powerOfTen (places - divisions * maxPower))
  else if places ≤ maxPower then x.multiply (powerOfTen places)
  else if significand = 0 then x
  else .infinite negative

/-- Whether a whole number fits into 64 bits, with or without a sign. -/
def fitsWord (n : Int) : Bool :=
  Number.leastSigned ≤ n && n ≤ Number.greatestUnsigned

/--
The number of 64 bits that digits denote.

Digits behind the first that does not fit the significand count only as places before the point.
-/
def fraction (negative : Bool) (whole places : Text) (exponent : Int) : Double :=
  let (significand, excess) := appendFitting 0 whole
  let (significand, unread) := appendFitting significand places
  scaleTen negative significand (exponent + excess + unread - places.length)

/-- A number without a fraction: whole if it fits, and never a negative zero. -/
def wholeNumber (negative : Bool) (digits : Text) : Number :=
  let magnitude : Int := Decimal.digitsValue digits
  let n := if negative then -magnitude else magnitude
  -- A zero with a minus sign is kept as a fraction, since whole numbers have one zero.
  if fitsWord n && !(negative && n == 0) then .integer n
  else .double (fraction negative digits [] 0)

/-- The digits of the power of ten, when one is written. -/
def takeExponent? : Text → Option (Option Int × Text)
  | c :: rest =>
    if c = 'e' ∨ c = 'E' then
      let (negative, rest) := Decimal.takeSign rest
      let (digits, rest) := Decimal.spanDigits rest
      if digits.isEmpty then none
      else
        let power : Int := Decimal.digitsValue digits
        some (some (if negative then -power else power), rest)
    else some (none, c :: rest)
  | [] => some (none, [])

/-- The digits after a point, when one is written. -/
def takeFraction? : Text → Option (Option Text × Text)
  | '.' :: rest =>
    let (digits, rest) := Decimal.spanDigits rest
    if digits.isEmpty then none else some (some digits, rest)
  | text => some (none, text)

/-- A number, which opens with a minus sign or a digit and has no needless zero in front. -/
def takeNumber? (text : Text) : Option (Number × Text) := do
  let (negative, text) := match text with
    | '-' :: rest => (true, rest)
    | _ => (false, text)
  let (whole, text) := Decimal.spanDigits text
  if whole.isEmpty || (whole.head? == some '0' && whole.length > 1) then none
  else
    let (places, text) ← takeFraction? text
    let (exponent, text) ← takeExponent? text
    if places.isNone && exponent.isNone then some (wholeNumber negative whole, text)
    else
      some (.double (fraction negative whole (places.getD []) (exponent.getD 0)), text)

end OverlaySheet.Json
