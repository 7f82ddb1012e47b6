import Facet.Scalar

/-!
# Fixed-point series

Real numbers as integers counted in units of `2 ^ -256`. Every scalar is a whole number of units
(`ofScalar`), and 107 bits are left below the smallest subnormal, so a series summed here and
rounded once (`Scalar.ofParts`) is the nearest scalar but for inputs far closer to a tie than any
scalar gets.

Each series is a Horner scheme over a number of terms that leaves a remainder below the unit.
-/

namespace Facet.FixedPoint

/-- The number of fractional bits. -/
def precision : Nat := 256

/-- One. -/
def one : Int := Scalar.twoPow precision

/-- `π`, rounded down to a whole number of units. -/
def pi : Int :=
  0x3243f6a8885a308d313198a2e03707344a4093822299f31d0082efa98ec4e6c89

/-- The natural logarithm of two, rounded down to a whole number of units. -/
def ln2 : Int :=
  0xb17217f7d1cf79abc9e3b39803f2f6af40f343267298b62d8a0d175b8baafa2b

/-- The product, rounded down. -/
def mul (a b : Int) : Int := a * b / one

/-- The quotient, rounded down; zero for a zero divisor. -/
def div (a b : Int) : Int := a * one / b

/-- The square root of a non-negative number, rounded down. -/
def sqrt (a : Int) : Int := Nat.sqrt (a * one).toNat

/-- The exact value of a finite scalar. -/
def ofScalar (x : Float32) : Int :=
  let p := Scalar.parts x
  let magnitude : Int := p.mantissa * Scalar.twoPow (p.exponent + precision).toNat
  if p.negative then -magnitude else magnitude

/-- The nearest scalar; `negative` decides the sign, that of zero included. -/
def toScalar (negative : Bool) (magnitude : Nat) : Float32 :=
  Scalar.ofParts { negative, mantissa := magnitude, exponent := -precision }

/-! ## Sine and cosine -/

/-- `1 - x²/(k(k+1)) · (1 - x²/((k+2)(k+3)) · (…))`, cut after the given number of terms. -/
def alternating (square : Int) : Nat → Nat → Int
  | 0, _ => one
  | n + 1, k => one - mul square (alternating square n (k + 2)) / (k * (k + 1))

/-- The sine of an angle of at most an eighth of a turn. -/
def sinSmall (r : Int) : Int := mul r (alternating (mul r r) 32 2)

/-- The cosine of an angle of at most an eighth of a turn. -/
def cosSmall (r : Int) : Int := alternating (mul r r) 32 1

/-- The number of quarter turns nearest to an angle, and what remains of it. -/
def reduceAngle (x : Int) : Int × Int :=
  let quarter := pi / 2
  let turns := (2 * x + quarter) / pi
  (turns, x - turns * pi / 2)

/-- The sine. -/
def sin (x : Int) : Int :=
  let (turns, r) := reduceAngle x
  match turns % 4 with
  | 0 => sinSmall r
  | 1 => cosSmall r
  | 2 => -sinSmall r
  | _ => -cosSmall r

/-- The cosine. -/
def cos (x : Int) : Int :=
  let (turns, r) := reduceAngle x
  match turns % 4 with
  | 0 => cosSmall r
  | 1 => -sinSmall r
  | 2 => -cosSmall r
  | _ => sinSmall r

/-! ## Arctangent -/

/-- `1/k - x²(1/(k+2) - x²(1/(k+4) - …))`, cut after the given number of terms. -/
def arctanSeries (square : Int) : Nat → Nat → Int
  | 0, _ => 0
  | n + 1, k => one / k - mul square (arctanSeries square n (k + 2))

/-- The tangent of half the angle whose tangent is `t`. -/
def halveTangent (t : Int) : Int := div t (one + sqrt (one + mul t t))

/-- The arctangent of a number in `[0, 1]`: the angle is halved three times before the series. -/
def arctan (t : Int) : Int :=
  let s := halveTangent (halveTangent (halveTangent t))
  8 * mul s (arctanSeries (mul s s) 40 1)

/-- The angle in `[0, π]` of a direction with `y ≥ 0`, for a direction other than zero. -/
def angle (y x : Int) : Int :=
  let across := (x.natAbs : Int)
  let acute := if y ≤ across then arctan (div y across) else pi / 2 - arctan (div across y)
  if x < 0 then pi - acute else acute

/-! ## Logarithm and exponential -/

/-- `1/k + x²(1/(k+2) + x²(1/(k+4) + …))`, cut after the given number of terms. -/
def artanhSeries (square : Int) : Nat → Nat → Int
  | 0, _ => 0
  | n + 1, k => one / k + mul square (artanhSeries square n (k + 2))

/-- The natural logarithm of a number in `[1, 2]`. -/
def ln (x : Int) : Int :=
  let z := div (x - one) (x + one)
  2 * mul z (artanhSeries (mul z z) 84 1)

/-- `1 + x/k · (1 + x/(k+1) · (…))`, cut after the given number of terms. -/
def expSeries (x : Int) : Nat → Nat → Int
  | 0, _ => one
  | n + 1, k => one + mul x (expSeries x n (k + 1)) / k

/-- The binary logarithm of a positive `mantissa · 2 ^ exponent`. -/
def log2 (mantissa : Nat) (exponent : Int) : Int :=
  let leading := mantissa.log2
  let significand : Int := mantissa * one / Scalar.twoPow leading
  (leading + exponent) * one + div (ln significand) ln2

/-- Two to the power of a number in `[0, 1]`. -/
def exp2 (x : Int) : Int := expSeries (mul x ln2) 64 1

end Facet.FixedPoint
