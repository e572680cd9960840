import MetricExpr.Binary64.Arithmetic
import MetricExpr.Expr.SyntaxError
/-!
# Parsing

The parser reads one token after another and keeps the operands that still wait for their operator's right side: at most
one for `+` and `-` and one for `*` and `/` on each level of parentheses. Operators of equal strength therefore associate
to the left, and `*` and `/` bind tighter than `+` and `-`. A sign belongs to a number only if the number follows it
without a gap; a unit scales the number before it.
-/
namespace MetricExpr

/-- Which kinds of node a text may stand for. -/
inductive Form where
  | either | expression | predicate
  deriving DecidableEq, Repr

/-- The operands of one level of parentheses that wait for a right operand. -/
structure Level where
  sum : Option (Expr × Arith)
  product : Option (Expr × Arith)
  deriving DecidableEq

/-- What the parser has just read. -/
inductive Phase where
  /-- An operand must come. -/
  | operand
  /-- A sign where an operand must come; the number must touch it. -/
  | sign (negative : Bool) (token : Token)
  /-- A number that may still take a unit. -/
  | number (value : Binary64) (token : Token)
  /-- A whole operand. -/
  | complete (e : Expr)

/-- The parser between two tokens: the left side of the comparison once its operator has been read, the levels around
the current one, and the current one. -/
structure ParseState where
  left : Option (Expr × Relation)
  outer : List Level
  level : Level
  phase : Phase

namespace Level

def empty : Level := ⟨none, none⟩

/-- Join a waiting operand with its right side. -/
def join : Option (Expr × Arith) → Expr → Expr
  | none, e => e
  | some (l, op), e => .binary op l e

/-- Add an operator after an operand. -/
def push (level : Level) (e : Expr) (op : Arith) : Level :=
  match op with
  | .times | .divide => { level with product := some (join level.product e, op) }
  | .plus | .minus => ⟨some (join level.sum (join level.product e), op), none⟩

/-- The whole expression of a level that ends with an operand. -/
def close (level : Level) (e : Expr) : Expr := join level.sum (join level.product e)

end Level

/-- The factor of a unit, in any letter case. -/
def unitFactor? (word : List Char) : Option Binary64 :=
  match word.map Char.toLower with
  | ['k'] | ['k', 'b'] => some (.ofInt 1000)
  | ['m'] | ['m', 'b'] => some (.ofInt 1000000)
  | ['g'] | ['g', 'b'] => some (.ofInt 1000000000)
  | _ => none

/-- The factor of a per cent sign. -/
def percentFactor : Binary64 := .ofDecimal false 1 (-2)

namespace ParseState

def start : ParseState := ⟨none, [], .empty, .operand⟩

/-- The state after a whole operand. -/
def done (s : ParseState) (e : Expr) : ParseState := { s with phase := .complete e }

/-- A number in front of what follows it; it must be finite. -/
def settle (value : Binary64) (token : Token) : Except ParseError Expr :=
  match value with
  | .finite x => .ok (.const x)
  | _ => .error ⟨.outOfRange, some token⟩

/-- The fault of a token that cannot follow a whole operand. -/
def refuse (form : Form) (s : ParseState) (token : Option Token) : ParseError :=
  if !s.outer.isEmpty then ⟨.missingClosing, token⟩
  else
    match s.left, form with
    | none, .predicate => ⟨.missingComparison, token⟩
    | none, .either => ⟨.unexpected .operatorOrEnd, token⟩
    | _, _ => ⟨.unexpected .arithmeticOrEnd, token⟩

/-- Read a token where an operand must come. -/
def readOperand (s : ParseState) (t : Token) : Except ParseError ParseState :=
  match t.kind with
  | .glob body =>
    match Variable.of? ⟨String.ofList body⟩ with
    | some v => .ok (s.done (.var v))
    | none => .error ⟨.emptyGlob, some t⟩
  | .openParen => .ok { s with outer := s.level :: s.outer, level := .empty, phase := .operand }
  | .number value => .ok { s with phase := .number value t }
  | .arith .plus => .ok { s with phase := .sign false t }
  | .arith .minus => .ok { s with phase := .sign true t }
  | _ => .error ⟨.missingOperand, some t⟩

/-- Read a token after a whole operand. -/
def readOperator (form : Form) (s : ParseState) (e : Expr) (t : Token) : Except ParseError ParseState :=
  match t.kind with
  | .arith op => .ok { s with level := s.level.push e op, phase := .operand }
  | .closeParen =>
    match s.outer with
    | level :: outer => .ok ⟨s.left, outer, level, .complete (s.level.close e)⟩
    | [] => .error (s.refuse form (some t))
  | .relation rel =>
    if s.outer.isEmpty && s.left.isNone && form != .expression then
      .ok ⟨some (s.level.close e, rel), [], .empty, .operand⟩
    else .error (s.refuse form (some t))
  | _ => .error (s.refuse form (some t))

/-- Read a token after a number: a unit scales it, anything else comes after the whole operand. -/
def readUnit (form : Form) (s : ParseState) (value : Binary64) (number t : Token) : Except ParseError ParseState :=
  match t.kind with
  | .percent => do return s.done (← settle (value * percentFactor) number)
  | .word =>
    match unitFactor? t.text with
    | some factor => do return s.done (← settle (value * factor) number)
    | none => .error ⟨.unknownUnit, some t⟩
  | _ => do s.readOperator form (← settle value number) t

/-- Read one token. -/
def read (form : Form) (s : ParseState) (t : Token) : Except ParseError ParseState :=
  match s.phase with
  | .operand => s.readOperand t
  | .sign negative signToken =>
    match t.kind with
    | .number value =>
      if t.position = signToken.position + 1 then
        .ok { s with phase := .number (if negative then -value else value) t }
      else .error ⟨.missingOperand, some signToken⟩
    | _ => .error ⟨.missingOperand, some signToken⟩
  | .number value number => s.readUnit form value number t
  | .complete e => s.readOperator form e t

/-- The node of a state at the end of the text, after a whole operand. -/
def complete (form : Form) (s : ParseState) (e : Expr) : Except ParseError Node :=
  if !s.outer.isEmpty then .error ⟨.missingClosing, none⟩
  else
    match s.left with
    | some (l, rel) => .ok (.comparison rel l (s.level.close e))
    | none =>
      if form = .predicate then .error ⟨.missingComparison, none⟩ else .ok (.expr (s.level.close e))

/-- The node of a state at the end of the text. -/
def finish (form : Form) (s : ParseState) : Except ParseError Node :=
  match s.phase with
  | .operand => .error ⟨.missingOperand, none⟩
  | .sign _ signToken => .error ⟨.missingOperand, some signToken⟩
  | .number value number => do s.complete form (← settle value number)
  | .complete e => s.complete form e

end ParseState

/-- The node of a list of tokens. -/
def Node.ofTokens? (form : Form) (tokens : List Token) : Except ParseError Node := do
  (← tokens.foldlM (·.read form) ParseState.start).finish form

/-- The node of a source text. -/
def Node.parse (form : Form) (text : String) : Except SyntaxError Node :=
  match Token.scan 0 text.toList with
  | .error fault => .error (.ofLexical text fault)
  | .ok tokens =>
    match Node.ofTokens? form tokens with
    | .error e => .error (.ofParse text e)
    | .ok n => .ok n

end MetricExpr
