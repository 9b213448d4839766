/-! Binary floating-point numbers as exact ratios, rounded to nearest with halves going to even. -/

namespace OverlaySheet

/-- A binary format: the bits of a significand and the powers of two that may scale it. -/
structure Precision where
  bits : Nat
  minScale : Int
  maxScale : Int
deriving DecidableEq

/-- The format of 32 bits. -/
def Precision.single : Precision := ⟨24, -149, 104⟩

/-- The format of 64 bits. -/
def Precision.double : Precision := ⟨53, -1074, 971⟩

/--
A number of a binary format.

A finite number is its significand times two to the power of its scale.
It is kept in the one form where the significand has all its bits or the scale is the least.
-/
inductive Binary (precision : Precision) where
  | finite (negative : Bool) (significand : Nat) (scale : Int)
  | infinite (negative : Bool)
  | notANumber
deriving DecidableEq

/-- Numbers of 32 bits. -/
abbrev Single := Binary .single

/-- Numbers of 64 bits. -/
abbrev Double := Binary .double

/-- The whole number nearest to a ratio, a half going to the even neighbour. -/
def roundHalfEven (numerator denominator : Nat) : Nat :=
  let quotient := numerator / denominator
  let twice := 2 * (numerator % denominator)
  if twice < denominator then quotient
  else if denominator < twice then quotient + 1
  else quotient + quotient % 2

/-- The ratio divided by a power of a base, still a ratio of whole numbers. -/
def scaleDown (base : Nat) (exponent : Int) (ratio : Nat × Nat) : Nat × Nat :=
  (ratio.1 * base.pow (-exponent).toNat, ratio.2 * base.pow exponent.toNat)

/-- The greatest power of two that is not above a positive ratio. -/
def binaryExponent (ratio : Nat × Nat) : Int :=
  let estimate : Int := (ratio.1.log2 : Int) - ratio.2.log2
  let scaled := scaleDown 2 estimate ratio
  -- The two logarithms are rounded down, so the estimate is right or one too high.
  if scaled.2 ≤ scaled.1 then estimate else estimate - 1

namespace Binary

variable {precision : Precision}

/-- Zero, which keeps its sign. -/
def zero (negative : Bool) : Binary precision :=
  .finite negative 0 precision.minScale

/-- The number nearest to a ratio with a positive denominator. -/
def ofRatio (precision : Precision) (negative : Bool) (ratio : Nat × Nat) : Binary precision :=
  if ratio.1 = 0 then zero negative
  else
    let scale := max precision.minScale (binaryExponent ratio - precision.bits + 1)
    let scaled := scaleDown 2 scale ratio
    let significand := roundHalfEven scaled.1 scaled.2
    -- Rounding up may need one bit more, which the next scale takes up.
    let carried := significand = Nat.pow 2 precision.bits
    let scale := if carried then scale + 1 else scale
    let significand := if carried then Nat.pow 2 (precision.bits - 1) else significand
    if precision.maxScale < scale then .infinite negative
    else .finite negative significand scale

/-- The magnitude of a finite number as a ratio. -/
def ratio (significand : Nat) (scale : Int) : Nat × Nat :=
  scaleDown 2 (-scale) (significand, 1)

/-- The nearest number of another format. -/
def convert (target : Precision) : Binary precision → Binary target
  | .finite negative significand scale => ofRatio target negative (ratio significand scale)
  | .infinite negative => .infinite negative
  | .notANumber => .notANumber

/-- The product, rounded once; nothing times infinity is not a number. -/
def multiply : Binary precision → Binary precision → Binary precision
  | .finite negative significand scale, .finite negative' significand' scale' =>
    ofRatio precision (negative != negative') (ratio (significand * significand') (scale + scale'))
  | .finite negative significand _, .infinite negative' =>
    if significand = 0 then .notANumber else .infinite (negative != negative')
  | .infinite negative, .finite negative' significand _ =>
    if significand = 0 then .notANumber else .infinite (negative != negative')
  | .infinite negative, .infinite negative' => .infinite (negative != negative')
  | .notANumber, _ => .notANumber
  | _, .notANumber => .notANumber

/-- The ratio of two positive magnitudes. -/
def ratioOver (above below : Nat × Nat) : Nat × Nat :=
  (above.1 * below.2, above.2 * below.1)

/-- The quotient, rounded once; nothing over nothing is not a number. -/
def divide : Binary precision → Binary precision → Binary precision
  | .finite negative significand scale, .finite negative' significand' scale' =>
    if significand' ≠ 0 then
      ofRatio precision (negative != negative')
        (ratioOver (ratio significand scale) (ratio significand' scale'))
    else if significand = 0 then .notANumber
    else .infinite (negative != negative')
  | .finite negative _ _, .infinite negative' => zero (negative != negative')
  | .infinite negative, .finite negative' _ _ => .infinite (negative != negative')
  | .infinite _, .infinite _ => .notANumber
  | .notANumber, _ => .notANumber
  | _, .notANumber => .notANumber

/-- Whether the number is a ratio, neither infinite nor undefined. -/
def isFinite : Binary precision → Bool
  | .finite .. => true
  | _ => false

/-- Whether the number is above zero. -/
def isPositive : Binary precision → Bool
  | .finite negative significand _ => !negative && significand != 0
  | .infinite negative => !negative
  | .notANumber => false

/-- The number nearest to a whole number. -/
def ofInt (precision : Precision) (n : Int) : Binary precision :=
  ofRatio precision (decide (n < 0)) (n.natAbs, 1)

end Binary

end OverlaySheet
