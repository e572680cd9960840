import MetricExpr.Binary64.Basic
import MetricExpr.Glob
import MetricExpr.OrderedMap
/-!
# Expressions

An expression is built from finite constants, variables that name metrics by a glob, and four arithmetic operators. A
comparison of two expressions is the only other kind of node; comparisons do not nest.
-/
namespace MetricExpr

/-- The arithmetic operators. -/
inductive Arith where
  | plus | minus | times | divide
  deriving DecidableEq, Repr

/-- The comparison operators. -/
inductive Relation where
  | lt | le | eq | ge | gt
  deriving DecidableEq, Repr

namespace Arith

def symbol : Arith → String
  | plus => "+" | minus => "-" | times => "*" | divide => "/"

def name : Arith → String
  | plus => "Plus" | minus => "Minus" | times => "Multiply" | divide => "Divide"

/-- Binding strength: a greater one binds tighter. -/
def strength : Arith → Nat
  | plus | minus => 1
  | times | divide => 2

def ofSymbol? (s : String) : Option Arith := [plus, minus, times, divide].find? (·.symbol == s)

end Arith

namespace Relation

def symbol : Relation → String
  | lt => "<" | le => "<=" | eq => "==" | ge => ">=" | gt => ">"

def name : Relation → String
  | lt => "LT" | le => "LTE" | eq => "EQ" | ge => "GTE" | gt => "GT"

def ofSymbol? (s : String) : Option Relation := [lt, le, eq, ge, gt].find? (·.symbol == s)

end Relation

/-- A reference to metrics: a glob with some text. -/
structure Variable where
  glob : Glob
  nonempty : glob.text ≠ ""
  deriving DecidableEq

/-- A numeric expression. -/
inductive Expr where
  | const (x : Finite)
  | var (v : Variable)
  | binary (op : Arith) (left right : Expr)
  deriving DecidableEq

/-- What a source text stands for: an expression or one comparison. -/
inductive Node where
  | expr (e : Expr)
  | comparison (rel : Relation) (left right : Expr)
  deriving DecidableEq

namespace Variable

/-- The variable of a glob text, if it has any. -/
def of? (g : Glob) : Option Variable := if h : g.text ≠ "" then some ⟨g, h⟩ else none

def text (v : Variable) : String := v.glob.text

def wildcards (v : Variable) : Nat := v.glob.wildcards

/-- A variable is known by its text. -/
theorem text_inj {v w : Variable} (h : v.text = w.text) : v = w := by
  obtain ⟨⟨s⟩, _⟩ := v
  obtain ⟨⟨t⟩, _⟩ := w
  have hst : s = t := h
  subst hst
  rfl

end Variable

namespace Expr

/-- The variables of an expression from left to right, with repetitions. -/
def vars : Expr → List Variable
  | const _ => []
  | var v => [v]
  | binary _ l r => l.vars ++ r.vars

/-- Equality of expressions: same shape, constants equal as numbers, so that the two zeros are the same. -/
def same : Expr → Expr → Bool
  | const x, const y => x.order y == .eq
  | var v, var w => v == w
  | binary o l r, binary o' l' r' => o == o' && l.same l' && r.same r'
  | _, _ => false

end Expr

namespace Node

def vars : Node → List Variable
  | expr e => e.vars
  | comparison _ l r => l.vars ++ r.vars

def same : Node → Node → Bool
  | expr e, expr f => e.same f
  | comparison o l r, comparison o' l' r' => o == o' && l.same l' && r.same r'
  | _, _ => false

/-- The glob texts that a node refers to, in order of first appearance. -/
def globs (n : Node) : List String := distinct (n.vars.map (·.text))

end Node
end MetricExpr
