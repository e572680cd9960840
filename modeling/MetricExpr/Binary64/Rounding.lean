import MetricExpr.Binary64.Basic
/-!
# Rounding to binary64

Every double that is computed or read comes from one function: the quotient of two natural numbers, rounded once to the
nearest double, a tie going to the even significand.
-/
namespace MetricExpr

/-- The quotient rounded to the nearest natural number; a half goes to the even neighbour. -/
def roundDiv (n d : Nat) : Nat :=
  let q := n / d
  let twice := 2 * (n % d)
  if twice < d || (twice == d && q % 2 == 0) then q else q + 1

/-- The greatest `k` with `2 ^ k ≤ n / d`, for positive `n` and `d`. -/
def floorLog2 (n d : Nat) : Int :=
  let k := (n.log2 : Int) - d.log2
  if d * twoTo k ≤ n * twoTo (-k) then k else k - 1

namespace Binary64

/-- The double with this significand and exponent; what is too large for the format is infinite. -/
def ofCanonical (negative : Bool) (significand : Nat) (exponent : Int) : Binary64 :=
  if h : Canonical significand exponent then .finite ⟨negative, significand, exponent, h⟩ else .infinity negative

/-- The double nearest to `n / d`. The quotient is rounded on the grid of 53 significant bits, or on the finest grid of
the format where that is coarser; a carry to `2 ^ 53` moves to the next exponent. -/
def ofRatio (negative : Bool) (n d : Nat) : Binary64 :=
  if n = 0 then zero negative
  else
    let e := max (-1074) (floorLog2 n d - 52)
    let m := roundDiv (n * twoTo (-e)) (d * twoTo e)
    if m = significandBound then ofCanonical negative leastFull (e + 1) else ofCanonical negative m e

/-- The double nearest to `m · 2 ^ e`. -/
def ofDyadic (negative : Bool) (m : Nat) (e : Int) : Binary64 :=
  ofRatio negative (m * twoTo e) (twoTo (-e))

/-- The double nearest to an integer, infinite beyond the range of the format. -/
def ofInt (n : Int) : Binary64 := ofRatio (n < 0) n.natAbs 1

/-- The double nearest to an integer, if it is finite. -/
def ofInt? (n : Int) : Option Binary64 :=
  let x := ofInt n
  if x.isFinite then some x else none

/-- How many decimal digits a natural number has; zero has none. -/
def digitCount (n : Nat) : Nat := if n = 0 then 0 else (Nat.toDigits 10 n).length

/-- The double nearest to `c · 10 ^ e`. Exponents far outside the format's range are decided by the number of digits
alone, so that no power of ten grows beyond need. -/
def ofDecimal (negative : Bool) (c : Nat) (e : Int) : Binary64 :=
  if c = 0 then zero negative
  else if 310 < e + digitCount c then .infinity negative
  else if e + digitCount c < -330 then zero negative
  else ofRatio negative (c * tenTo e) (tenTo (-e))

end Binary64
end MetricExpr
