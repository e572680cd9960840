import MetricExpr.Datum
import MetricExpr.Expr.Basic
/-!
# Building nodes from data

Nodes can be built from operands of any kind. Building checks the operator first, then the left and the right operand,
and says which of them does not fit.
-/
namespace MetricExpr

/-- Something that stands where a node may stand. -/
inductive Operand where
  | node (n : Node)
  | datum (d : Datum)

/-- The side of an operand. -/
inductive Side where
  | left | right
  deriving DecidableEq, Repr

/-- Why a node cannot be built. -/
inductive BuildFault where
  | constantKind (kind : String)
  | constantTooLarge
  | constantNotFinite (x : Binary64)
  | globKind (kind : String)
  | globEmpty
  | arithmeticOperator (symbol : String)
  | arithmeticOperand (side : Side) (kind : String)
  | comparisonOperator (symbol : String)
  | comparisonSide (side : Side) (kind : String)
  | notNode (kind : String)
  deriving DecidableEq

namespace Side

def name : Side → String
  | left => "left"
  | right => "right"

end Side

/-- The operators in the order of their characters, as messages list them. -/
def arithmeticSymbols : List String := ["*", "+", "-", "/"]

def comparisonSymbols : List String := ["<", "<=", "==", ">", ">="]

namespace BuildFault

def message : BuildFault → String
  | constantKind kind => "Constant: value must be a number, got " ++ kind
  | constantTooLarge => ConversionFault.tooLarge.message
  | constantNotFinite x => "Constant: value must be finite, got " ++ x.text
  | globKind kind => "Variable: glob must be a string, got " ++ kind
  | globEmpty => "Variable: glob must not be empty"
  | arithmeticOperator symbol =>
    "BinaryExpr: unknown operator '" ++ symbol ++ "'. Valid operators: " ++ Text.quoteList arithmeticSymbols
  | arithmeticOperand side kind =>
    "BinaryExpr: " ++ side.name ++ " operand must be an expression, got " ++ kind
  | comparisonOperator symbol =>
    "Comparison: unknown operator '" ++ symbol ++ "'. Valid operators: " ++ Text.quoteList comparisonSymbols
  | comparisonSide side kind => "Comparison: " ++ side.name ++ " side must be an expression, got " ++ kind
  | notNode kind => "Unknown node type: " ++ kind

end BuildFault

namespace Operand

/-- The name of an operand's kind in messages. -/
def kind : Operand → String
  | node (.expr (.const _)) => "Constant"
  | node (.expr (.var _)) => "Variable"
  | node (.expr (.binary ..)) => "BinaryExpr"
  | node (.comparison ..) => "Comparison"
  | datum d => d.kind

def expr? : Operand → Option Expr
  | node (.expr e) => some e
  | _ => none

/-- The node of an operand that is one. -/
def toNode : Operand → Except BuildFault Node
  | node n => .ok n
  | datum d => .error (.notNode d.kind)

end Operand

/-- A constant from a datum: a finite number that is no flag. -/
def Expr.ofDatum : Datum → Except BuildFault Expr
  | .integer n =>
    match Binary64.ofInt n with
    | .finite x => .ok (.const x)
    | _ => .error .constantTooLarge
  | .real (.finite x) => .ok (.const x)
  | .real x => .error (.constantNotFinite x)
  | d => .error (.constantKind d.kind)

/-- A variable from a glob text, bare or quoted. -/
def Variable.ofText (s : String) : Except BuildFault Variable :=
  (Variable.of? (Glob.ofText s)).elim (.error .globEmpty) .ok

/-- A variable from a datum that is a text. -/
def Variable.ofDatum : Datum → Except BuildFault Variable
  | .text s => Variable.ofText s
  | d => .error (.globKind d.kind)

/-- An arithmetic node from an operator's symbol and two operands. -/
def Expr.ofOperands (symbol : String) (left right : Operand) : Except BuildFault Expr := do
  let some op := Arith.ofSymbol? symbol | .error (.arithmeticOperator symbol)
  let some l := left.expr? | .error (.arithmeticOperand .left left.kind)
  let some r := right.expr? | .error (.arithmeticOperand .right right.kind)
  return .binary op l r

/-- A comparison from an operator's symbol and two operands. -/
def Node.ofOperands (symbol : String) (left right : Operand) : Except BuildFault Node := do
  let some rel := Relation.ofSymbol? symbol | .error (.comparisonOperator symbol)
  let some l := left.expr? | .error (.comparisonSide .left left.kind)
  let some r := right.expr? | .error (.comparisonSide .right right.kind)
  return .comparison rel l r

end MetricExpr
