import MetricExpr.Datum
/-!
# Symbol tables

A symbol table maps dotted paths to numbers. It is made from a nested mapping by joining the keys on the way to each
number; a path that comes again keeps its place and takes the new number.
-/
namespace MetricExpr

/-- Paths and their numbers, in document order. -/
abbrev SymbolTable := OrderedMap String Binary64

/-- Why a source is no symbol table. -/
inductive TableFault where
  | notNumber (path kind : String)
  | emptyKey (parent : String)
  /-- A mapping inside itself has no end. -/
  | endless
  /-- An integer beyond the range of doubles. -/
  | tooLarge
  /-- An integer as a key, with more digits than are written. -/
  | longKey
  | notFound
  | unsupported (suffix : String) (supported : List String)
  | notMapping
  | missingColumns (names : List String)
  /-- The text is no document. The message gives no details. -/
  | malformedDocument
  /-- The text is no table of records. The message gives no details. -/
  | malformedRecords
  deriving DecidableEq, Repr

/-- What is wrong, without the source. -/
def TableFault.detail : TableFault → String
  | notNumber path kind => "value at '" ++ path ++ "' must be a number, got " ++ kind
  | emptyKey parent => "empty key under '" ++ (if parent.isEmpty then "<root>" else parent) ++ "'"
  | endless => "maximum recursion depth exceeded"
  | tooLarge => ConversionFault.tooLarge.message
  | longKey =>
    "Exceeds the limit (" ++ toString integerDigitLimit ++ " digits) for integer string conversion; use " ++
      "sys.set_int_max_str_digits() to increase the limit"
  | notFound => "file not found"
  | unsupported suffix supported =>
    "unsupported format '" ++ suffix ++ "'. Supported: " ++ Text.quoteList supported
  | notMapping => "top level must be a mapping"
  | missingColumns names => "missing columns: " ++ Text.quoteList names
  | malformedDocument => "YAML parse error: <detail>"
  | malformedRecords => "CSV parse error: <detail>"

/-- Is the fault reported as one of the source? An integer that cannot be converted breaks loading off instead, and so does
a mapping without an end. -/
def TableFault.isReported : TableFault → Bool
  | endless | tooLarge | longKey => false
  | _ => true

/-- The whole message about a source. A fault that is not reported as one of the source stands by itself. -/
def TableFault.message (source : String) (fault : TableFault) : String :=
  if fault.isReported then "Invalid symbol table '" ++ source ++ "': " ++ fault.detail else fault.detail

namespace SymbolTable

/-- A leaf as a number. Flags are no numbers here. -/
def number (path : String) : Datum → Except TableFault Binary64
  | .integer n => (Binary64.ofInt? n).elim (.error .tooLarge) .ok
  | .real x => .ok x
  | d => .error (.notNumber path d.kind)

/-- Is a key an integer with more digits than are written? -/
def isLongKey : Datum → Bool
  | .integer n => integerDigitLimit < (Nat.toDigits 10 n.natAbs).length
  | _ => false

/-- The path of a key below a parent. -/
def join (parent key : String) : String := if parent.isEmpty then key else parent ++ "." ++ key

mutual

/-- The table of one entry below a parent: the tables of its own entries if it is a mapping, else one number. -/
def flattenEntry (path : String) : Datum → Except TableFault SymbolTable
  | .mapping entries => flattenEntries path .empty entries
  | .cycle => .error .endless
  | d => (number path d).map fun x => .ofList [(path, x)]

/-- A table with the entries of a mapping inserted in order. -/
def flattenEntries (parent : String) (table : SymbolTable) : List (Datum × Datum) → Except TableFault SymbolTable
  | [] => .ok table
  | (k, d) :: rest =>
    let key := k.toText
    if isLongKey k then .error .longKey
    else if key.isEmpty then .error (.emptyKey parent)
    else do
      let sub ← flattenEntry (join parent key) d
      flattenEntries parent (table.insertAll sub.entries) rest

end

/-- The table of a nested mapping whose paths all start below a parent path. -/
def flatten (parent : String) (entries : List (Datum × Datum)) : Except TableFault SymbolTable :=
  flattenEntries parent .empty entries

end SymbolTable
end MetricExpr
