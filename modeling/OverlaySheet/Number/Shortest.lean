import OverlaySheet.Number.Decimal

/-! The shortest decimal digits that read back to a binary number, and their layouts. -/

namespace OverlaySheet

/-- Which of two equally near decimals is taken. -/
inductive TieRule where
  | even
  | up
deriving DecidableEq

namespace Shortest

/-- The greatest power of ten that is not above a positive ratio. -/
def decimalExponent (ratio : Nat × Nat) : Int :=
  if ratio.2 ≤ ratio.1 then ((Nat.toDigits 10 (ratio.1 / ratio.2)).length : Int) - 1
  -- Below one, count the digits of the greatest whole number under the inverse.
  else -((Nat.toDigits 10 ((ratio.2 + ratio.1 - 1) / ratio.1 - 1)).length : Int)

/-- Whether a decimal reads back as the given magnitude. -/
def readsBack (precision : Precision) (significand : Nat) (scale : Int) (digits : Nat)
    (exponent : Int) : Bool :=
  Binary.ofDecimal precision ⟨false, digits, exponent⟩ == .finite false significand scale

/-- Whether the grid point above is to be preferred to the one below. -/
def prefersAbove (tie : TieRule) (below : Nat) (scaled : Nat × Nat) : Bool :=
  let twice := 2 * scaled.1
  let middle := (2 * below + 1) * scaled.2
  if twice = middle then tie == .up || below % 2 == 1 else middle < twice

/-- The decimal with a given number of digits that reads back, the nearer if two do. -/
def withDigits? (precision : Precision) (tie : TieRule) (significand : Nat) (scale : Int)
    (count : Nat) : Option (Nat × Int) :=
  let ratio := Binary.ratio significand scale
  let exponent := decimalExponent ratio - count + 1
  let scaled := scaleDown 10 exponent ratio
  let below := scaled.1 / scaled.2
  let hit := fun digits => readsBack precision significand scale digits exponent
  match hit below, hit (below + 1) with
  | true, true =>
    some (if prefersAbove tie below scaled then below + 1 else below, exponent)
  | true, false => some (below, exponent)
  | false, true => some (below + 1, exponent)
  | false, false => none

/-- Every binary number is a decimal number, though perhaps a long one. -/
def exact (significand : Nat) (scale : Int) : Nat × Int :=
  (significand * Nat.pow 2 scale.toNat * Nat.pow 5 (-scale).toNat, min scale 0)

/-- Seventeen digits tell any two numbers of the formats in use apart. -/
def maxDigits : Nat := 17

/-- The shortest decimal that reads back, as digits and the power of ten they count. -/
def decimal (precision : Precision) (tie : TieRule) (significand : Nat) (scale : Int) :
    Nat × Int :=
  ((List.range maxDigits).findSome? fun count =>
    withDigits? precision tie significand scale (count + 1)).getD (exact significand scale)

end Shortest

/-- How a number's digits become text. -/
structure NumberStyle where
  /-- Which of two equally near decimals is taken. -/
  tie : TieRule
  /-- The powers of ten of the first digit that are written out; all of them if not given. -/
  writtenOut : Option (Int × Int)
  /-- Whether a whole number is written with a fraction. -/
  keepsFraction : Bool

namespace NumberStyle

/-- Zeros that fill a gap between digits and point. -/
def zeros (count : Int) : Text :=
  List.replicate count.toNat '0'

/-- Digits with a point after the place of the power zero. -/
def writeOut (style : NumberStyle) (digits : Text) (first : Int) : Text :=
  if first < 0 then '0' :: '.' :: zeros (-first - 1) ++ digits
  else if (digits.length : Int) ≤ first + 1 then
    digits ++ zeros (first + 1 - digits.length) ++ (if style.keepsFraction then ['.', '0'] else [])
  else digits.take (first + 1).toNat ++ '.' :: digits.drop (first + 1).toNat

/-- One digit, the others after a point, and the power of ten with its sign. -/
def writePower (digits : Text) (first : Int) : Text :=
  digits.take 1 ++ (if digits.length ≤ 1 then [] else '.' :: digits.drop 1)
    ++ 'e' :: (if first < 0 then '-' else '+') :: Nat.toDigits 10 first.natAbs

/-- The digits of a finite magnitude without closing zeros, and the power of ten of the first. -/
def digitsOf (precision : Precision) (tie : TieRule) (significand : Nat) (scale : Int) :
    Text × Int :=
  if significand = 0 then (['0'], 0)
  else
    let (digits, exponent) := Shortest.decimal precision tie significand scale
    let row := Nat.toDigits 10 digits
    ((row.reverse.dropWhile (· == '0')).reverse, exponent + row.length - 1)

/-- The text of a number. -/
def write (style : NumberStyle) {precision : Precision} : Binary precision → Text
  | .finite negative significand scale =>
    let (digits, first) := digitsOf precision style.tie significand scale
    let body := match style.writtenOut with
      | none => style.writeOut digits first
      | some (least, greatest) =>
        if least ≤ first && first ≤ greatest then style.writeOut digits first
        else writePower digits first
    if negative then '-' :: body else body
  | .infinite negative => (if negative then "-inf" else "inf").toList
  | .notANumber => "NaN".toList

/-- Plain text writes out all places, drops an empty fraction and sends a tie up. -/
def plain : NumberStyle := ⟨.up, none, false⟩

end NumberStyle

end OverlaySheet
