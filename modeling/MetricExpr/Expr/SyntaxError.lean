import MetricExpr.Expr.Token
/-!
# Syntax errors

A syntax error says what is wrong, where, what was expected there and what was found. Its causes are an inductive type;
the wording is in one place.
-/
namespace MetricExpr

/-- What a text that parses no further was expected to go on with. -/
inductive Expectation where
  /-- More arithmetic or the end. -/
  | arithmeticOrEnd
  /-- More arithmetic, a comparison or the end. -/
  | operatorOrEnd
  deriving DecidableEq, Repr

/-- Why a list of tokens is no node. -/
inductive ParseFault where
  | missingOperand
  | missingComparison
  | missingClosing
  | emptyGlob
  | unknownUnit
  | outOfRange
  | unexpected (instead : Expectation)
  deriving DecidableEq, Repr

/-- A fault at a token, or at the end of the text. -/
structure ParseError where
  fault : ParseFault
  token : Option Token
  deriving DecidableEq

/-- A syntax error as it is reported. -/
structure SyntaxError where
  reason : String
  text : String
  position : Int
  expected : Option String
  found : Option String
  deriving DecidableEq, Repr

namespace Expectation

def operand : String := "quoted glob, \"(\" or number"

def comparison : String := "comparison operator (<, <=, ==, >=, >)"

def unit : String := "unit (k, kb, m, mb, g, gb, %)"

def text : Expectation → String
  | arithmeticOrEnd => "'+', '-', '*', '/' or end of input"
  | operatorOrEnd => "operator, " ++ comparison ++ " or end of input"

end Expectation

namespace ParseFault

/-- What the grammar expected where the fault is. -/
def expected : ParseFault → String
  | missingOperand => Expectation.operand
  | missingComparison => Expectation.comparison
  | missingClosing => "')'"
  | emptyGlob => "non-empty glob"
  | unknownUnit => Expectation.unit
  | outOfRange => "finite number"
  | unexpected instead => instead.text

/-- The message of the fault, given the words for what was found. -/
def reason (fault : ParseFault) (found : String) : String :=
  match fault with
  | missingOperand | missingComparison | missingClosing => "Expected " ++ fault.expected ++ ", found " ++ found
  | emptyGlob => "Empty glob literal"
  | unknownUnit => "Unknown unit " ++ found
  | outOfRange => "Number out of range"
  | unexpected _ => "Unexpected " ++ found

end ParseFault

namespace SyntaxError

/-- The report of a text that cannot be cut into tokens. -/
def ofLexical (text : String) : LexicalFault × Nat → SyntaxError
  | (.unterminatedGlob, position) =>
    ⟨"Unterminated glob literal", text, position, some "closing \"", some "end of input"⟩
  | (.unexpectedCharacter c, position) =>
    let found := String.ofList (Text.quoted [c])
    ⟨"Unexpected character " ++ found, text, position, some "operator, glob or number", some found⟩

/-- The report of a text whose tokens are no node. -/
def ofParse (text : String) (e : ParseError) : SyntaxError :=
  let found := Token.describe e.token
  let position := match e.token with
    | some t => t.position
    | none => text.length
  ⟨e.fault.reason found, text, position, some e.fault.expected, some found⟩

/-- The whole message: with a position, the text and a caret under it follow on lines of their own. -/
def message (e : SyntaxError) : String :=
  if 0 ≤ e.position then
    e.reason ++ " at position " ++ toString e.position ++ "\n  " ++ e.text ++ "\n  " ++
      String.ofList (List.replicate e.position.toNat ' ') ++ "^"
  else e.reason

end SyntaxError
end MetricExpr
