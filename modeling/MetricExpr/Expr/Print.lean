import MetricExpr.Decimal.Shortest
import MetricExpr.Expr.Basic
import MetricExpr.Text.Quoted
/-!
# Printing nodes

A node has a source text with the fewest parentheses that keep its shape, and a structural form that names every
constructor.
-/
namespace MetricExpr

/-- A constant in source text: integral values below 1e16 as integers, others by their shortest text. -/
def Finite.sourceChars (x : Finite) : List Char :=
  if x.isZero then (if x.negative then ['-', '0'] else ['0'])
  else if x.isIntegral && x.truncate.natAbs < 10000000000000000 then
    (if x.negative then ['-'] else []) ++ decimal x.truncate.natAbs
  else x.chars

/-- A glob between double quotes; quotes and backslashes in it are escaped by a backslash. -/
def Glob.literal (cs : List Char) : List Char :=
  '"' :: cs.flatMap (fun c => if c == '"' || c == '\\' then ['\\', c] else [c]) ++ ['"']

namespace Expr

/-- Parentheses around a text if they are needed. -/
def wrap (needed : Bool) (cs : List Char) : List Char := if needed then '(' :: cs ++ [')'] else cs

/-- The strength with which an expression holds together at its root: leaves are never split. -/
def strength : Expr → Nat
  | binary op _ _ => op.strength
  | _ => 3

/-- Source text. A left operand is wrapped if it binds weaker than the operator, a right one if it does not bind
tighter. -/
def chars : Expr → List Char
  | const x => x.sourceChars
  | var v => Glob.literal v.text.toList
  | binary op l r =>
    wrap (l.strength < op.strength) l.chars ++ ' ' :: op.symbol.toList ++ ' ' ::
      wrap (r.strength ≤ op.strength) r.chars

/-- Structural form. -/
def form : Expr → List Char
  | const x => "Const(".toList ++ x.chars ++ [')']
  | var v => "Var(".toList ++ Text.quoted v.text.toList ++ [')']
  | binary op l r => op.name.toList ++ '(' :: l.form ++ ", ".toList ++ r.form ++ [')']

end Expr

namespace Node

def chars : Node → List Char
  | expr e => e.chars
  | comparison rel l r => l.chars ++ ' ' :: rel.symbol.toList ++ ' ' :: r.chars

def form : Node → List Char
  | expr e => e.form
  | comparison rel l r => rel.name.toList ++ '(' :: l.form ++ ", ".toList ++ r.form ++ [')']

/-- Source text of a node. -/
def text (n : Node) : String := String.ofList n.chars

/-- Structural form of a node. -/
def structureText (n : Node) : String := String.ofList n.form

end Node
end MetricExpr
