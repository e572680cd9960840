import MetricExpr.Decimal.Numeral
import MetricExpr.Decimal.Shortest
import MetricExpr.OrderedMap
import MetricExpr.Text.Quoted
/-!
# Data of mixed kinds

What a document, a table cell or a caller may hold before it is known to be a number. A datum has a kind, a text form
and, unless it is of the wrong kind, a conversion to a double.
-/
namespace MetricExpr

/-- A value of a document. -/
inductive Datum where
  | null
  | flag (b : Bool)
  | integer (n : Int)
  | real (x : Binary64)
  | text (s : String)
  | date (year month day : Nat)
  | list (items : List Datum)
  | mapping (entries : List (Datum × Datum))
  /-- A datum of another kind with its text form, such as a date with a time of day or a set: no number is made from it. -/
  | other (kind form : String)
  /-- A mapping inside itself. -/
  | cycle

instance : Inhabited Datum := ⟨.null⟩

/-- Why a datum has no double. -/
inductive ConversionFault where
  | tooLarge
  | malformed (text : String)
  | wrongKind (kind : String)
  deriving DecidableEq, Repr

def ConversionFault.message : ConversionFault → String
  | .tooLarge => "int too large to convert to float"
  | .malformed text => "could not convert string to float: " ++ Text.quote text
  | .wrongKind kind => "float() argument must be a string or a real number, not '" ++ kind ++ "'"

namespace Datum

/-- The name of the datum's kind in messages. -/
def kind : Datum → String
  | null => "NoneType"
  | flag _ => "bool"
  | integer _ => "int"
  | real _ => "float"
  | text _ => "str"
  | date .. => "date"
  | list _ => "list"
  | mapping _ | cycle => "dict"
  | other kind _ => kind

mutual

/-- The form of a datum inside a list or a mapping: texts are quoted. -/
def inner : Datum → String
  | null => "None"
  | flag b => if b then "True" else "False"
  | integer n => toString n
  | real x => x.text
  | text s => Text.quote s
  | date year month day =>
    "datetime.date(" ++ toString year ++ ", " ++ toString month ++ ", " ++ toString day ++ ")"
  | list items => "[" ++ ", ".intercalate (innerList items) ++ "]"
  | mapping entries => "\x7b" ++ ", ".intercalate (innerEntries entries) ++ "\x7d"
  | other _ form => form
  | cycle => "\x7b...\x7d"

def innerList : List Datum → List String
  | [] => []
  | d :: ds => inner d :: innerList ds

def innerEntries : List (Datum × Datum) → List String
  | [] => []
  | (k, v) :: rest => (inner k ++ ": " ++ inner v) :: innerEntries rest

end

/-- The text form of a datum: a text stands for itself. -/
def toText : Datum → String
  | text s => s
  | date year month day =>
    String.ofList (padded 4 year ++ '-' :: padded 2 month ++ '-' :: padded 2 day)
  | d => d.inner

/-- The double of a datum: a flag counts as one or zero, an integer is rounded, a text is read. -/
def toBinary64 : Datum → Except ConversionFault Binary64
  | flag b => .ok (Binary64.ofInt b.toInt)
  | integer n => (Binary64.ofInt? n).elim (.error .tooLarge) .ok
  | real x => .ok x
  | text s => (Binary64.ofText? s).elim (.error (.malformed s)) .ok
  | date .. => .error (.wrongKind "datetime.date")
  | d => .error (.wrongKind d.kind)

/-- The number that a flag, an integer or a real stands for as a key: an integer if it is one. -/
def keyNumber? : Datum → Option (Int ⊕ Binary64)
  | flag b => some (.inl b.toInt)
  | integer n => some (.inl n)
  | real (.finite x) => some (if x.isIntegral then .inl x.truncate else .inr (.finite x))
  | real x => some (.inr x)
  | _ => none

/-- Equality of keys: numbers by value across kinds, everything else by kind and text. NaN equals no key. -/
def sameKey (a b : Datum) : Bool :=
  match a.keyNumber?, b.keyNumber? with
  | some (.inl m), some (.inl n) => m == n
  | some (.inr x), some (.inr y) => x.eq y
  | none, none => a.kind == b.kind && a.inner == b.inner
  | _, _ => false

/-- The entries of a mapping after its pairs are inserted in order. -/
def mappingOf (pairs : List (Datum × Datum)) : Datum :=
  letI : BEq Datum := ⟨sameKey⟩
  .mapping (OrderedMap.ofList pairs).entries

end Datum
end MetricExpr
