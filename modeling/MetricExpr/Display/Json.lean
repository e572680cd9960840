import MetricExpr.Decimal.Shortest
import MetricExpr.Expr.Basic
import MetricExpr.Resolution.Basic
import MetricExpr.Text.Quoted
/-!
# JSON output

Results can be written as JSON: objects keep the order of their fields, numbers are finite, nesting is indented by two
blanks, and everything outside printable ASCII is escaped.
-/
namespace MetricExpr

/-- A JSON value. Its numbers are integers and finite doubles. -/
inductive JsonValue where
  | null
  | flag (b : Bool)
  | integer (n : Int)
  | real (x : Finite)
  | text (s : String)
  | array (items : List JsonValue)
  | object (fields : List (String × JsonValue))

instance : Inhabited JsonValue := ⟨.null⟩

namespace JsonValue

/-- The escape of a code unit of sixteen bits. -/
def escapeUnit (n : Nat) : List Char := '\\' :: 'u' :: Text.hex 4 n

/-- One character inside a string; beyond sixteen bits it is two surrogates. -/
def escapeChar (c : Char) : List Char :=
  if c == '"' || c == '\\' then ['\\', c]
  else if c == '\n' then ['\\', 'n']
  else if c == '\r' then ['\\', 'r']
  else if c == '\t' then ['\\', 't']
  else if c == '\x08' then ['\\', 'b']
  else if c == '\x0c' then ['\\', 'f']
  else if 0x20 ≤ c.toNat && c.toNat < 0x7F then [c]
  else if c.toNat < 0x10000 then escapeUnit c.toNat
  else
    let n := c.toNat - 0x10000
    escapeUnit (0xD800 + n / 0x400) ++ escapeUnit (0xDC00 + n % 0x400)

def string (s : String) : String := String.ofList ('"' :: s.toList.flatMap escapeChar ++ ['"'])

/-- A line break and the blanks of a depth. -/
def lineBreak (depth : Nat) : String := "\n" ++ String.ofList (List.replicate (2 * depth) ' ')

mutual

/-- The text of a value that stands at a depth. -/
def writeAt (depth : Nat) : JsonValue → String
  | null => "null"
  | flag b => if b then "true" else "false"
  | integer n => toString n
  | real x => String.ofList x.chars
  | text s => string s
  | array [] => "[]"
  | array (x :: xs) =>
    "[" ++ lineBreak (depth + 1) ++ writeAt (depth + 1) x ++ writeItems (depth + 1) xs ++ lineBreak depth ++ "]"
  | object [] => "\x7b\x7d"
  | object ((k, x) :: fields) =>
    "\x7b" ++ lineBreak (depth + 1) ++ string k ++ ": " ++ writeAt (depth + 1) x ++ writeFields (depth + 1) fields ++
      lineBreak depth ++ "\x7d"

/-- The texts of the items after the first one. -/
def writeItems (depth : Nat) : List JsonValue → String
  | [] => ""
  | x :: xs => "," ++ lineBreak depth ++ writeAt depth x ++ writeItems depth xs

/-- The texts of the fields after the first one. -/
def writeFields (depth : Nat) : List (String × JsonValue) → String
  | [] => ""
  | (k, x) :: fields =>
    "," ++ lineBreak depth ++ string k ++ ": " ++ writeAt depth x ++ writeFields depth fields

end

/-- The text of a value. -/
def write (x : JsonValue) : String := writeAt 0 x

/-- A list of texts. -/
def texts (xs : List String) : JsonValue := array (xs.map text)

/-- A number; infinities and NaN are written by name, as texts. -/
def ofBinary64 : Binary64 → JsonValue
  | .finite x => real x
  | x => text x.text

/-- The value of a node, null if it has none. -/
def ofOutcome : Option (Outcome Binary64) → JsonValue
  | none => null
  | some (.number x) => ofBinary64 x
  | some (.truth b) => flag b

end JsonValue

/-- The structure of an expression. -/
def Expr.toJson : Expr → JsonValue
  | const x => .object [("type", .text "constant"), ("value", .real x)]
  | var v => .object [("type", .text "variable"), ("glob", .text v.text), ("wildcards", .integer v.wildcards)]
  | binary op l r =>
    .object [("type", .text "binary"), ("op", .text op.symbol), ("left", l.toJson), ("right", r.toJson)]

/-- The structure of a node. -/
def Node.toJson : Node → JsonValue
  | expr e => e.toJson
  | comparison rel l r =>
    .object [("type", .text "comparison"), ("op", .text rel.symbol), ("left", l.toJson), ("right", r.toJson)]

/-- A resolution with its captures, keys and unmatched globs. -/
def Resolution.toJson (r : Resolution) : JsonValue :=
  let (captures, keys) : JsonValue × JsonValue := match r with
    | ok captures keys => (.texts captures, .object (keys.map fun (v, key) => (v.text, .text key)))
    | _ => (.null, .null)
  let globs := match r with
    | unmatched globs => globs
    | _ => []
  .object [("reason", .text r.reason), ("captures", captures), ("keys", keys), ("unmatched", .texts globs)]

end MetricExpr
