import Facet.Scalar

/-!
# Six-place decimal text

A scalar written with exactly six decimal places. The exact dyadic value is rounded once, a tie
going to the even digit, so the text depends on the value and on nothing else; the sign bit is
always shown, also that of a zero.
-/

namespace Facet.Scalar

/-- The number of decimal places written. -/
def places : Nat := 6

/-- How many units of the last place make up one. -/
def unitsPerOne : Nat := Nat.pow 10 places

/-- The magnitude of a dyadic number counted in millionths, rounded to nearest with ties to even. -/
def millionths (p : Parts) : Nat :=
  let scaled := p.mantissa * unitsPerOne
  if 0 ≤ p.exponent then scaled * twoPow p.exponent.toNat
  else roundDiv scaled (twoPow (-p.exponent).toNat)

/-- The decimal digits of `n`, at least `width` of them. -/
def paddedDigits (width n : Nat) : String :=
  let digits := Nat.toDigits 10 n
  String.ofList (List.replicate (width - digits.length) '0' ++ digits)

/-- The text of a scalar with six decimal places. -/
def decimal (x : Float32) : String :=
  if x.isNaN then "NaN"
  else
    let sign := if isNegative x then "-" else ""
    if x.isInf then sign ++ "inf"
    else
      let units := millionths (parts x)
      sign ++ paddedDigits 1 (units / unitsPerOne) ++ "."
        ++ paddedDigits places (units % unitsPerOne)

end Facet.Scalar
