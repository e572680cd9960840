import MetricExpr.Binary64.Rounding
/-!
# Arithmetic of binary64 numbers

The four operations of IEEE 754: exact results rounded once, signed zeros, infinities, and NaN for the results that do
not exist. A quotient by zero is infinite, never an error.
-/
namespace MetricExpr.Binary64

/-- A sum of finite numbers. An exact zero is positive unless both terms are negative. -/
def addFinite (x y : Finite) : Binary64 :=
  let e := min x.exponent y.exponent
  let total := x.scaled e + y.scaled e
  if total = 0 then zero (x.negative && y.negative) else ofDyadic (total < 0) total.natAbs e

def neg : Binary64 → Binary64
  | .finite x => .finite x.neg
  | .infinity negative => .infinity (!negative)
  | .nan => .nan

def add : Binary64 → Binary64 → Binary64
  | .finite x, .finite y => addFinite x y
  | .nan, _ | _, .nan => .nan
  | .infinity a, .infinity b => if a == b then .infinity a else .nan
  | .infinity a, .finite _ => .infinity a
  | .finite _, .infinity b => .infinity b

def sub (x y : Binary64) : Binary64 := add x y.neg

def mul : Binary64 → Binary64 → Binary64
  | .finite x, .finite y =>
    ofDyadic (x.negative ^^ y.negative) (x.significand * y.significand) (x.exponent + y.exponent)
  | .nan, _ | _, .nan => .nan
  | .infinity a, .infinity b => .infinity (a ^^ b)
  | .infinity a, .finite y => if y.isZero then .nan else .infinity (a ^^ y.negative)
  | .finite x, .infinity b => if x.isZero then .nan else .infinity (x.negative ^^ b)

/-- The quotient of finite numbers: by zero it is infinite, and zero by zero is NaN. -/
def divFinite (x y : Finite) : Binary64 :=
  let negative := x.negative ^^ y.negative
  if y.isZero then
    if x.isZero then .nan else .infinity negative
  else
    let e := x.exponent - y.exponent
    ofRatio negative (x.significand * twoTo e) (y.significand * twoTo (-e))

def div : Binary64 → Binary64 → Binary64
  | .finite x, .finite y => divFinite x y
  | .nan, _ | _, .nan => .nan
  | .infinity _, .infinity _ => .nan
  | .infinity a, .finite y => .infinity (a ^^ y.negative)
  | .finite x, .infinity b => zero (x.negative ^^ b)

instance : Add Binary64 := ⟨add⟩
instance : Sub Binary64 := ⟨sub⟩
instance : Mul Binary64 := ⟨mul⟩
instance : Div Binary64 := ⟨div⟩
instance : Neg Binary64 := ⟨neg⟩

end MetricExpr.Binary64
