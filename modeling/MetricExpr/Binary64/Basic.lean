/-!
# Binary64 numbers

A double is a finite dyadic number in its one canonical form, an infinity, or NaN. All arithmetic on it is exact
arithmetic of integers followed by one rounding, so nothing here rests on the machine's own floating point.
-/
namespace MetricExpr

/-! ## Powers -/

/-- The power of two with this exponent; one for a negative exponent. -/
def twoTo (e : Int) : Nat := Nat.pow 2 e.toNat

/-- The power of ten with this exponent; one for a negative exponent. -/
def tenTo (e : Int) : Nat := Nat.pow 10 e.toNat

/-! ## Doubles -/

/-- What every significand is below: `2 ^ 53`. -/
abbrev significandBound : Nat := 9007199254740992

/-- The least significand of full length: `2 ^ 52`. -/
abbrev leastFull : Nat := 4503599627370496

/-- A significand of at most 53 bits at an exponent between −1074 and 971; below 52 full bits only at the least
exponent, so that a number is written in one way. -/
def Canonical (significand : Nat) (exponent : Int) : Prop :=
  significand < significandBound ∧ -1074 ≤ exponent ∧ exponent ≤ 971 ∧
    (significand < leastFull → exponent = -1074)

instance (significand : Nat) (exponent : Int) : Decidable (Canonical significand exponent) :=
  inferInstanceAs (Decidable (_ ∧ _ ∧ _ ∧ (_ → _)))

/-- A finite double: `significand · 2 ^ exponent` with a sign, so that zero has two forms. -/
structure Finite where
  negative : Bool
  significand : Nat
  exponent : Int
  canonical : Canonical significand exponent
  deriving DecidableEq

/-- A number of the IEEE 754 binary64 format. There is one NaN. -/
inductive Binary64 where
  | finite (x : Finite)
  | infinity (negative : Bool)
  | nan
  deriving DecidableEq

namespace Finite

/-- The zero of the given sign. -/
def zero (negative : Bool) : Finite := ⟨negative, 0, -1074, by decide⟩

instance : Inhabited Finite := ⟨zero false⟩

/-- Both zeros are zero. -/
def isZero (x : Finite) : Bool := x.significand == 0

/-- The signed integer `n` with value `n · 2 ^ e`, for an `e` that is at most the number's exponent. -/
def scaled (x : Finite) (e : Int) : Int :=
  let size := (x.significand : Int) * twoTo (x.exponent - e)
  if x.negative then -size else size

/-- Order of the values: both numbers are brought to the smaller exponent. -/
def order (x y : Finite) : Ordering :=
  let e := min x.exponent y.exponent
  compare (x.scaled e) (y.scaled e)

/-- The same number with the other sign. -/
def neg (x : Finite) : Finite := { x with negative := !x.negative }

/-- A number without a fractional part. -/
def isIntegral (x : Finite) : Bool :=
  0 ≤ x.exponent || x.significand % twoTo (-x.exponent) == 0

/-- The number without its fractional part. -/
def truncate (x : Finite) : Int :=
  let size := x.significand * twoTo x.exponent / twoTo (-x.exponent)
  if x.negative then -(size : Int) else size

end Finite

namespace Binary64

instance : Inhabited Binary64 := ⟨.finite default⟩

/-- The zero of the given sign. -/
def zero (negative : Bool) : Binary64 := .finite (.zero negative)

def isFinite : Binary64 → Bool
  | .finite _ => true
  | _ => false

def isNaN : Binary64 → Bool
  | .nan => true
  | _ => false

/-- Order of two numbers; NaN has none. -/
def order? : Binary64 → Binary64 → Option Ordering
  | .nan, _ | _, .nan => none
  | .finite x, .finite y => some (x.order y)
  | .infinity a, .infinity b => some (compare b.toNat a.toNat)
  | .infinity a, .finite _ => some (if a then .lt else .gt)
  | .finite _, .infinity b => some (if b then .gt else .lt)

def lt (x y : Binary64) : Bool := order? x y == some .lt
def gt (x y : Binary64) : Bool := order? x y == some .gt
def le (x y : Binary64) : Bool := (order? x y).any (· != .gt)
def ge (x y : Binary64) : Bool := (order? x y).any (· != .lt)

/-- Equality of numbers: the two zeros are equal, and NaN equals nothing. -/
def eq (x y : Binary64) : Bool := order? x y == some .eq

end Binary64
end MetricExpr
