import MetricExpr.Expr.Eval
/-!
# Quantities

Bindings that a caller supplies may be integers. Sums, differences and products of integers stay exact integers;
anything else is computed on doubles, and an integer is compared with a double by its exact value.
-/
namespace MetricExpr

/-- An exact integer or a double. -/
inductive Quantity where
  | whole (n : Int)
  | real (x : Binary64)
  deriving DecidableEq

namespace Quantity

def toBinary64 : Quantity → Binary64
  | whole n => .ofInt n
  | real x => x

def arith (op : Arith) (a b : Quantity) : Quantity :=
  match op, a, b with
  | .plus, whole m, whole n => whole (m + n)
  | .minus, whole m, whole n => whole (m - n)
  | .times, whole m, whole n => whole (m * n)
  | _, _, _ => real (op.apply a.toBinary64 b.toBinary64)

/-- Order of an integer and a finite double by value. -/
def orderWhole (n : Int) (x : Finite) : Ordering :=
  let e := min 0 x.exponent
  Ord.compare (n * twoTo (-e)) (x.scaled e)

def order? : Quantity → Quantity → Option Ordering
  | whole m, whole n => some (Ord.compare m n)
  | whole m, real (.finite x) => some (orderWhole m x)
  | real (.finite x), whole n => some (orderWhole n x).swap
  | a, b => a.toBinary64.order? b.toBinary64

end Quantity

/-- Integers and doubles together. -/
def Carrier.mixed : Carrier Quantity :=
  ⟨fun x => .real (.finite x), Quantity.arith, fun rel a b => (a.order? b).any rel.holds⟩

end MetricExpr
