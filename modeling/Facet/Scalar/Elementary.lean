import Facet.Scalar.FixedPoint

/-!
# Elementary functions

Sine, cosine, arc cosine, two-argument arctangent and power on scalars. The finite cases are
summed in fixed point and rounded once; the values at zeros and infinities follow the IEEE 754
recommendations, and NaN gives NaN unless the other argument alone decides a power.

They stand for the functions of a platform, which may be off by more than half a unit in the last
place. The proofs rely on nothing that this could change. Of `acos` and `pow` they use when the
result is NaN (`acos_of_nan`, `not_nan_acos`, `not_nan_pow`), and of the others nothing.
-/

namespace Facet.Scalar

/-- The scalar nearest to a fixed-point number. -/
def ofFixed (v : Int) : Float32 := FixedPoint.toScalar (v < 0) v.natAbs

/-- The sine; undefined at infinity, and the argument itself at either zero. -/
def sin (x : Float32) : Float32 :=
  if !x.isFinite then notANumber
  else if x == 0 then x
  else ofFixed (FixedPoint.sin (FixedPoint.ofScalar x))

/-- The cosine; undefined at infinity. -/
def cos (x : Float32) : Float32 :=
  if !x.isFinite then notANumber
  else ofFixed (FixedPoint.cos (FixedPoint.ofScalar x))

/-- The arc cosine, in `[0, π]`; undefined outside `[-1, 1]`. -/
def acos (x : Float32) : Float32 :=
  if x.abs ≤ 1 then
    let v := FixedPoint.ofScalar x
    ofFixed (FixedPoint.angle (FixedPoint.sqrt (FixedPoint.one - FixedPoint.mul v v)) v)
  else
    notANumber

/-- The angle of the direction `(x, y)` in units of a quarter turn, when an axis decides it. -/
def axisAngle (y x : Float32) : Option Int :=
  let quarter := FixedPoint.pi / 4
  if x.isInf then
    if y.isInf then some (if isNegative x then 3 * quarter else quarter)
    else some (if isNegative x then 4 * quarter else 0)
  else if y.isInf then some (2 * quarter)
  else if y == 0 then some (if isNegative x then 4 * quarter else 0)
  else if x == 0 then some (2 * quarter)
  else none

/-- The angle of the direction `(x, y)`, in `[-π, π]`, with the sign of `y`. -/
def atan2 (y x : Float32) : Float32 :=
  if y.isNaN || x.isNaN then notANumber
  else
    let magnitude :=
      match axisAngle y x with
      | some a => a
      | none => FixedPoint.angle (FixedPoint.ofScalar y).natAbs (FixedPoint.ofScalar x)
    FixedPoint.toScalar (isNegative y) magnitude.natAbs

/-! ## Powers -/

/-- Whether a finite scalar is a whole number. -/
def isWhole (y : Float32) : Bool :=
  y.isFinite && FixedPoint.ofScalar y % FixedPoint.one == 0

/-- Whether a finite scalar is an odd whole number. -/
def isOdd (y : Float32) : Bool :=
  isWhole y && FixedPoint.ofScalar y / FixedPoint.one % 2 == 1

/-- `± 2 ^ p` for a fixed-point exponent, rounded once; far outside the range it saturates. -/
def signedExp2 (negative : Bool) (p : Int) : Float32 :=
  let whole := p / FixedPoint.one
  if 128 ≤ whole then ofParts { negative, mantissa := 1, exponent := 128 }
  else if whole < -152 then ofParts { negative, mantissa := 0, exponent := 0 }
  else
    -- the last 56 bits only guard the series: an exact power comes out exact
    let v := (FixedPoint.exp2 (p % FixedPoint.one) + twoPow 55) / twoPow 56
    ofParts { negative, mantissa := v.toNat, exponent := whole - 200 }

/-- `x` to the power `y`. -/
def pow (x y : Float32) : Float32 :=
  let negative := isNegative x && isOdd y
  let zero := ofParts { negative, mantissa := 0, exponent := 0 }
  let infinite := ofParts { negative, mantissa := 1, exponent := 128 }
  if y == 0 || x == 1 then 1
  else if x.isNaN || y.isNaN then notANumber
  else if y.isInf then
    if x.abs == 1 then 1
    else if (1 < x.abs) == (0 < y) then infinity
    else 0
  else if x == 0 then if y < 0 then infinite else zero
  else if x.isInf then if y < 0 then zero else infinite
  else if isNegative x && !isWhole y then notANumber
  else
    let p := parts x
    signedExp2 negative
      (FixedPoint.mul (FixedPoint.ofScalar y) (FixedPoint.log2 p.mantissa p.exponent))

end Facet.Scalar
