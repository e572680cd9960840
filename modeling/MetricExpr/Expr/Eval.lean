import MetricExpr.Binary64.Arithmetic
import MetricExpr.Expr.Basic
/-!
# Evaluation

A node is evaluated bottom-up over any carrier of numbers. A variable without a value leaves the whole node without one;
there is no other failure, since division by zero is infinite or NaN.
-/
namespace MetricExpr

/-- An operator symbol that names no operator. -/
inductive OperatorFault where
  | arithmetic (symbol : String)
  | comparison (symbol : String)
  deriving DecidableEq, Repr

def OperatorFault.message : OperatorFault → String
  | arithmetic symbol => "Unknown arithmetic operator: " ++ symbol
  | comparison symbol => "Unknown comparison operator: " ++ symbol

namespace Arith

/-- The operator on doubles. -/
def apply (op : Arith) (x y : Binary64) : Binary64 :=
  match op with
  | plus => x + y
  | minus => x - y
  | times => x * y
  | divide => x / y

def named (symbol : String) : Except OperatorFault Arith :=
  (ofSymbol? symbol).elim (.error (.arithmetic symbol)) .ok

end Arith

namespace Relation

/-- Does an order satisfy the operator? -/
def holds (rel : Relation) (o : Ordering) : Bool :=
  match rel with
  | lt => o.isLT
  | le => o.isLE
  | eq => o.isEq
  | ge => o.isGE
  | gt => o.isGT

/-- The operator on doubles; with NaN it never holds. -/
def apply (rel : Relation) (x y : Binary64) : Bool := (x.order? y).any rel.holds

def named (symbol : String) : Except OperatorFault Relation :=
  (ofSymbol? symbol).elim (.error (.comparison symbol)) .ok

end Relation

/-- Numbers that a node can be evaluated over. -/
structure Carrier (α : Type) where
  constant : Finite → α
  arith : Arith → α → α → α
  compare : Relation → α → α → Bool

/-- The doubles. -/
def Carrier.binary64 : Carrier Binary64 := ⟨.finite, Arith.apply, Relation.apply⟩

/-- The value of a node: a number for an expression, a truth value for a comparison. -/
inductive Outcome (α : Type) where
  | number (x : α)
  | truth (b : Bool)
  deriving DecidableEq

/-- The value of an expression whose variables are bound by `env`. -/
def Expr.eval {α : Type} (K : Carrier α) (env : Variable → Option α) : Expr → Option α
  | const x => some (K.constant x)
  | var v => env v
  | binary op l r => do return K.arith op (← l.eval K env) (← r.eval K env)

/-- The value of a node whose variables are bound by `env`. -/
def Node.eval {α : Type} (K : Carrier α) (env : Variable → Option α) : Node → Option (Outcome α)
  | expr e => (e.eval K env).map .number
  | comparison rel l r => do return .truth (K.compare rel (← l.eval K env) (← r.eval K env))

/-- Values by variable; no bindings at all bind nothing. -/
abbrev Bindings (α : Type) := OrderedMap Variable α

/-- The bindings among entries that may lack a value: a variable without one is not bound. -/
def Bindings.present {α : Type} (entries : OrderedMap Variable (Option α)) : Bindings α :=
  ⟨entries.entries.filterMap fun (v, x) => x.map (v, ·)⟩

/-- The value of a node under bindings that may be missing altogether. -/
def Node.evalWith {α : Type} (K : Carrier α) (bindings : Option (Bindings α)) (n : Node) : Option (Outcome α) :=
  n.eval K fun v => bindings.bind (·.get? v)

end MetricExpr
