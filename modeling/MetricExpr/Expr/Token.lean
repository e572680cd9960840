import MetricExpr.Decimal.Numeral
import MetricExpr.Expr.Basic
import MetricExpr.Text.Quoted
import MetricExpr.Text.Word
/-!
# Tokens

Source text is cut into tokens: quoted globs, numerals, words, operators and parentheses. Blanks between tokens are
skipped. At each place the longest token is taken.
-/
namespace MetricExpr

/-- What a token is, with its meaning where it has one. -/
inductive TokenKind where
  | number (value : Binary64)
  | glob (body : List Char)
  | word
  | arith (op : Arith)
  | relation (rel : Relation)
  | openParen
  | closeParen
  | percent
  deriving DecidableEq

/-- A token, its text, and the number of characters in front of it. -/
structure Token where
  kind : TokenKind
  text : List Char
  position : Nat
  deriving DecidableEq

/-- Why a text cannot be cut into tokens. -/
inductive LexicalFault where
  | unterminatedGlob
  | unexpectedCharacter (c : Char)
  deriving DecidableEq, Repr

namespace Token

/-- The body of a glob literal whose opening quote has been read, and how many characters it takes up to and with the
closing quote. A backslash stands for the character after it. -/
def globBody? : List Char → Option (List Char × Nat)
  | [] => none
  | '"' :: _ => some ([], 1)
  | ['\\'] => none
  | '\\' :: c :: cs => (globBody? cs).map fun (body, n) => (c :: body, n + 2)
  | c :: cs => (globBody? cs).map fun (body, n) => (c :: body, n + 1)

/-- An operator or parenthesis in front of a text, and how many more characters it has than one. Two characters are
tried before one. -/
def symbol? : Char → List Char → Option (TokenKind × Nat)
  | '<', '=' :: _ => some (.relation .le, 1)
  | '>', '=' :: _ => some (.relation .ge, 1)
  | '=', '=' :: _ => some (.relation .eq, 1)
  | '<', _ => some (.relation .lt, 0)
  | '>', _ => some (.relation .gt, 0)
  | '+', _ => some (.arith .plus, 0)
  | '-', _ => some (.arith .minus, 0)
  | '*', _ => some (.arith .times, 0)
  | '/', _ => some (.arith .divide, 0)
  | '(', _ => some (.openParen, 0)
  | ')', _ => some (.closeParen, 0)
  | '%', _ => some (.percent, 0)
  | _, _ => none

/-- The token in front of a text that starts with `c`, and how many more characters it has than that one. -/
def front (c : Char) (cs : List Char) : Except LexicalFault (TokenKind × Nat) :=
  if c = '"' then
    match globBody? cs with
    | some (body, n) => .ok (.glob body, n)
    | none => .error .unterminatedGlob
  else
    match Numeral.scan? (c :: cs) with
    | some (n, _) => .ok (.number n.value, n.lexeme.length - 1)
    | none =>
      if Text.isWordStart c then .ok (.word, (cs.takeWhile Text.isWordPart).length)
      else
        match symbol? c cs with
        | some found => .ok found
        | none => .error (.unexpectedCharacter c)

/-- The tokens of a text that stands at a position. -/
def scan (position : Nat) : List Char → Except (LexicalFault × Nat) (List Token)
  | [] => .ok []
  | c :: cs =>
    if Text.isBlank c then scan (position + 1) cs
    else
      match front c cs with
      | .error fault => .error (fault, position)
      | .ok (kind, more) =>
        (scan (position + 1 + more) (cs.drop more)).map (⟨kind, c :: cs.take more, position⟩ :: ·)
termination_by cs => cs.length
decreasing_by all_goals simp_all; try omega

/-- How a message names a token, or the end of the text where there is none. -/
def describe : Option Token → String
  | some t => String.ofList (Text.quoted t.text)
  | none => "end of input"

end Token
end MetricExpr
