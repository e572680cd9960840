import MetricExpr.Decimal.Shortest
/-!
# Fixed-point text

A finite number with a given number of digits after the point: the exact value rounded to a multiple of `10 ^ -places`,
a tie going to the even digit.
-/
namespace MetricExpr.Finite

/-- The size of the number as a rounded count of units `10 ^ -places`. -/
def units (x : Finite) (places : Nat) : Nat :=
  roundDiv (x.significand * twoTo x.exponent * tenTo places) (twoTo (-x.exponent))

/-- The digits of a count of units `10 ^ -places`, with the point in place. -/
def pointed (places units : Nat) : List Char :=
  if places = 0 then decimal units
  else
    let cs := padded (places + 1) units
    cs.take (cs.length - places) ++ '.' :: cs.drop (cs.length - places)

/-- Fixed-point text with all its places. -/
def fixed (x : Finite) (places : Nat) : List Char :=
  let size := pointed places (x.units places)
  if x.negative then '-' :: size else size

end MetricExpr.Finite
