import OverlaySheet.Number.Shortest

/-! Dimensions: lengths with a unit. -/

namespace OverlaySheet

/-- Pixels, pixels of the display's density, or pixels scaled with the user's text size. -/
inductive LengthUnit where
  | px
  | dp
  | sp
deriving DecidableEq

/-- The name of a unit. -/
def LengthUnit.name : LengthUnit → String
  | px => "px"
  | dp => "dp"
  | sp => "sp"

/-- A length. -/
structure Dimension where
  value : Single
  unit : LengthUnit
deriving DecidableEq

namespace Dimension

/-- A whole number of a unit. -/
def ofNat (n : Nat) (unit : LengthUnit) : Dimension :=
  ⟨.ofRatio .single false (n, 1), unit⟩

/-- Whether the length is above zero. -/
def isPositive (dimension : Dimension) : Bool :=
  dimension.value.isPositive

/-- The length in pixels on a display with the given densities. -/
def toPixels (dimension : Dimension) (density scaledDensity : Single) : Single :=
  match dimension.unit with
  | .px => dimension.value
  | .dp => dimension.value.multiply density
  | .sp => dimension.value.multiply scaledDensity

/-- The unit that the end of a length names; a bare number is in pixels. -/
def readUnit? (suffix : Text) : Option LengthUnit :=
  if suffix = [] ∨ suffix = ['p', 'x'] then some .px
  else if suffix = ['d', 'p'] ∨ suffix = ['d', 'i', 'p'] then some .dp
  else if suffix = ['s', 'p'] then some .sp
  else none

/-- A minus sign that may stand in front, and what follows it; a plus sign is none. -/
def takeMinus : Text → Bool × Text
  | '-' :: rest => (true, rest)
  | text => (false, text)

/-- The length that a text without blanks around it denotes. -/
def readTrimmed? (text : Text) : Option Dimension :=
  let (negative, unsigned) := takeMinus text
  match Decimal.takePoint? unsigned with
  | none => none
  | some (whole, fraction, suffix) =>
    (readUnit? suffix).map fun unit =>
      ⟨.ofDecimal .single (.ofDigits negative whole fraction 0), unit⟩

/-- The length that a text denotes, blanks around it apart. -/
def read? (text : String) : Option Dimension :=
  readTrimmed? (Text.trim text.toList)

/-- What is said about a text that is no length. -/
def invalidMessage (text : String) : String :=
  s!"invalid dimension '{text}', expected a number with an optional dp, sp or px unit"

/-- A length as text: all its places, then the unit. -/
def write (dimension : Dimension) : Text :=
  NumberStyle.plain.write dimension.value ++ dimension.unit.name.toList

end Dimension

end OverlaySheet
