import MetricExpr.Binary64.Rounding
/-!
# Shortest decimal text

The text of a double has the fewest significant digits that read back as the same double, and of those the digits
nearest to it. Numbers from 1e-4 up to, but not including, 1e16 are written positionally, always with a point.
-/
namespace MetricExpr

/-- The decimal number `coefficient · 10 ^ exponent`. -/
structure Digits where
  coefficient : Nat
  exponent : Int
  deriving DecidableEq, Repr

namespace Digits

/-- The greatest `k` with `10 ^ k ≤ n / d`, for positive `n` and `d`: the binary logarithm gives it up to one. -/
def floorLog10 (n d : Nat) : Int :=
  let reaches (k : Int) : Bool := d * tenTo k ≤ n * tenTo (-k)
  let k := (floorLog2 n d * 30103) / 100000
  if reaches (k + 1) then k + 1 else if reaches k then k else k - 1

/-- The reals that round to a finite double, in quarters of its last place: from `low` to `high` around `centre`. The
ends belong to it iff the significand is even; below a power of two the grid is twice as fine. -/
structure Interval where
  low : Nat
  centre : Nat
  high : Nat
  closed : Bool

def Interval.of (x : Finite) : Interval :=
  let m := x.significand
  let below := if m == leastFull && -1074 < x.exponent then 1 else 2
  ⟨4 * m - below, 4 * m, 4 * m + 2, m % 2 == 0⟩

/-- Is `c / scale` inside the interval, when `unit / scale` is the size of one of its quarters? -/
def Interval.holds (range : Interval) (unit scale c : Nat) : Bool :=
  let low := range.low * unit
  let high := range.high * unit
  if range.closed then low ≤ c * scale && c * scale ≤ high else low < c * scale && c * scale < high

/-- The point of the decimal grid `10 ^ exponent` that reads back as `x`, the nearer one if both neighbours do; an exact
tie goes to the even digit. -/
def onGrid? (x : Finite) (exponent : Int) : Option Digits :=
  let range := Interval.of x
  let quarter := x.exponent - 2
  let unit := twoTo quarter * tenTo (-exponent)
  let scale := twoTo (-quarter) * tenTo exponent
  let q := range.centre * unit / scale
  let twice := 2 * (range.centre * unit % scale)
  let nearest := if twice < scale || (twice == scale && q % 2 == 0) then q else q + 1
  let other := if nearest == q then q + 1 else q
  if range.holds unit scale nearest then some ⟨nearest, exponent⟩
  else if range.holds unit scale other then some ⟨other, exponent⟩
  else none

/-- The first grid that holds a number reading back as `x`, from `exponent` downwards. -/
def search (x : Finite) : Nat → Int → Digits
  | 0, exponent => (onGrid? x exponent).getD ⟨0, exponent⟩
  | fuel + 1, exponent => (onGrid? x exponent).getD (search x fuel (exponent - 1))

/-- The same number without trailing zeros in the coefficient. -/
def trim (coefficient : Nat) (exponent : Int) : Digits :=
  if h : coefficient ≠ 0 ∧ coefficient % 10 = 0 then trim (coefficient / 10) (exponent + 1)
  else ⟨coefficient, exponent⟩
termination_by coefficient
decreasing_by omega

/-- The shortest digits of a nonzero double: seventeen always suffice. -/
def shortest (x : Finite) : Digits :=
  let top := floorLog10 (x.significand * twoTo x.exponent) (twoTo (-x.exponent))
  let found := search x 16 top
  trim found.coefficient found.exponent

end Digits

/-- The choices of a way to write numbers: which decimal exponents are written positionally, and how many digits a
written exponent has at least. -/
structure Layout where
  leastPositional : Int
  beyondPositional : Int
  exponentDigits : Nat

/-- Numbers from 1e-4 up to 1e16 are positional, and a written exponent has a sign and at least two digits. -/
def Layout.plain : Layout := ⟨-4, 16, 2⟩

/-- Decimal digits of a natural number. -/
def decimal (n : Nat) : List Char := Nat.toDigits 10 n

/-- Digits with zeros in front, up to a width. -/
def padded (width n : Nat) : List Char :=
  let cs := decimal n
  List.replicate (width - cs.length) '0' ++ cs

/-- Digits with a point, or with a point after the first digit and an exponent. -/
def Layout.write (layout : Layout) (d : Digits) : List Char :=
  let cs := decimal d.coefficient
  let top := d.exponent + cs.length - 1
  if layout.leastPositional ≤ top && top < layout.beyondPositional then
    if top < 0 then
      "0.".toList ++ List.replicate (-top - 1).toNat '0' ++ cs
    else if d.exponent < 0 then
      cs.take (top + 1).toNat ++ '.' :: cs.drop (top + 1).toNat
    else
      cs ++ List.replicate d.exponent.toNat '0' ++ ".0".toList
  else
    let mantissa := match cs with
      | first :: second :: rest => first :: '.' :: second :: rest
      | short => short
    let sign := if top < 0 then '-' else '+'
    mantissa ++ 'e' :: sign :: padded layout.exponentDigits top.natAbs

namespace Finite

/-- The shortest text of a finite number; a negative zero keeps its sign. -/
def chars (x : Finite) : List Char :=
  let size := if x.isZero then "0.0".toList else Layout.plain.write (.shortest x)
  if x.negative then '-' :: size else size

end Finite

namespace Binary64

/-- The shortest text of a number. -/
def chars : Binary64 → List Char
  | .finite x => x.chars
  | .infinity negative => (if negative then "-inf" else "inf").toList
  | .nan => "nan".toList

def text (x : Binary64) : String := String.ofList x.chars

end Binary64
end MetricExpr
