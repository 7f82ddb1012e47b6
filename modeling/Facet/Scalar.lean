/-!
# Single-precision scalars

The numbers of the library are `Float32`: binary32 with sums, products, quotients and square roots
rounded once, to the nearest, and with a single NaN. This module adds what the core type leaves out:
the exact dyadic value behind a finite scalar (`Scalar.parts`), the way back with a single rounding
(`Scalar.ofParts`), and clamping to an interval that may fail to be one.
-/

namespace Facet.Scalar

/-! ## Constants -/

/-- The scalar nearest to `π`. -/
def pi : Float32 := Float32.ofBits 0x40490fdb

/-- The scalar nearest to `2π`. -/
def tau : Float32 := Float32.ofBits 0x40c90fdb

/-- Positive infinity. -/
def infinity : Float32 := Float32.ofBits 0x7f800000

/-- The scalar that stands for an undefined result. -/
def notANumber : Float32 := Float32.ofBits 0x7fc00000

/-! ## Dyadic parts -/

/-- Two to a power. -/
def twoPow (n : Nat) : Nat := Nat.pow 2 n

/-- The number `± mantissa · 2 ^ exponent`. -/
structure Parts where
  /-- Whether the number carries a minus sign; zero has two signs. -/
  negative : Bool
  mantissa : Nat
  exponent : Int
deriving DecidableEq, Repr

/-- The sign bit, which NaN does not have. -/
def isNegative (x : Float32) : Bool :=
  twoPow 31 ≤ x.toBits.toNat

/-- The exact value of a finite scalar. -/
def parts (x : Float32) : Parts :=
  let bits := x.toBits.toNat
  let biased := bits / twoPow 23 % 256
  let fraction := bits % twoPow 23
  { negative := isNegative x
    mantissa := if biased = 0 then fraction else fraction + twoPow 23
    exponent := (max biased 1 : Nat) - 150 }

/-- The quotient rounded to the nearest natural number, a half going to the even neighbour. -/
def roundDiv (num den : Nat) : Nat :=
  let quotient := num / den
  let twice := 2 * (num % den)
  if twice < den then quotient
  else if den < twice then quotient + 1
  else quotient + quotient % 2

/--
The scalar nearest to a dyadic number, ties to even, infinite past the largest finite one.

The unit in the last place is `2 ^ q`: 24 bits below the leading bit, but never below the
smallest subnormal. Counted in that unit the magnitude is also the bit pattern's offset within
its binade, so a carry out of the significand moves to the next binade by itself.
-/
def ofParts (p : Parts) : Float32 :=
  let sign := if p.negative then twoPow 31 else 0
  if p.mantissa = 0 then
    Float32.ofBits (UInt32.ofNat sign)
  else
    let q := max ((p.mantissa.log2 : Int) + p.exponent - 23) (-149)
    let units :=
      if q ≤ p.exponent then p.mantissa * twoPow (p.exponent - q).toNat
      else roundDiv p.mantissa (twoPow (q - p.exponent).toNat)
    let magnitude := min ((q + 149).toNat * twoPow 23 + units) 0x7f800000
    Float32.ofBits (UInt32.ofNat (sign + magnitude))

/-! ## Clamping -/

/-- `x` moved into `[lo, hi]`; a NaN compares false with both bounds and stays NaN. -/
def clamp (lo hi x : Float32) : Float32 :=
  let raised := if x < lo then lo else x
  if hi < raised then hi else raised

/-- `x` moved into `[lo, hi]`, or `none` when the bounds are out of order or undefined. -/
def clamp? (lo hi x : Float32) : Option Float32 :=
  if lo ≤ hi then some (clamp lo hi x) else none

end Facet.Scalar
