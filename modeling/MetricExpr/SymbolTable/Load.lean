import MetricExpr.Csv.Sheet
import MetricExpr.Files
import MetricExpr.SymbolTable
import MetricExpr.Text.Encoding
import MetricExpr.Yaml.Document
/-!
# Loading symbol tables

A file's suffix tells how its symbol table is written: as a document of nested mappings, or as a sheet with the columns
`path` and `value`, where a missing value leaves its path out. What the system says about paths and how bytes are read as
documents and sheets are parameters of loading (`SymbolTable.loadFrom`).
-/
namespace MetricExpr

/-- Why a reader makes nothing of bytes. -/
inductive ReadFault where
  /-- They are not in the format. The message gives no details. -/
  | malformed
  /-- They are not UTF-8. -/
  | bytes (fault : Text.DecodeFault)
  /-- A scalar of the document has the form of a number or a timestamp and is none. -/
  | scalar (fault : Yaml.ScalarFault)
  /-- Anything else that breaks the reader off. -/
  | other (message : String)
  deriving DecidableEq, Repr

/-- The readers of documents and of sheets. -/
structure Readers where
  document : List UInt8 → Except ReadFault Datum
  sheet : List UInt8 → Except ReadFault Csv.Sheet

namespace Readers

/-- The text that bytes are. -/
def text (bytes : List UInt8) : Except ReadFault String := (Text.decode bytes).mapError .bytes

/-- Documents and sheets as they are read here. -/
def own : Readers where
  document bytes := do
    let s ← text bytes
    (Yaml.readDocument s).mapError fun
      | .malformed => .malformed
      | .scalar fault => .scalar fault
  sheet bytes := do
    let s ← text bytes
    (Csv.Sheet.ofText s).mapError fun _ => .malformed

end Readers

/-- Why a file gives no symbol table. -/
inductive LoadFault where
  | table (fault : TableFault)
  /-- The system refuses the path, or does not let the file be read. -/
  | access (fault : AccessFault)
  | bytes (fault : Text.DecodeFault)
  | scalar (fault : Yaml.ScalarFault)
  | other (message : String)
  deriving DecidableEq, Repr

/-- The fault of a reader, with the one to be reported if it says that the bytes are not in its format. -/
def LoadFault.ofRead (malformed : TableFault) : ReadFault → LoadFault
  | .malformed => table malformed
  | .bytes fault => bytes fault
  | .scalar fault => scalar fault
  | .other message => other message

/-- Is the fault reported as one of the source? All others break off what needs the table. -/
def LoadFault.isReported : LoadFault → Bool
  | table fault => fault.isReported
  | _ => false

def LoadFault.message (source : String) : LoadFault → String
  | table fault => fault.message source
  | access fault => fault.message source
  | bytes fault => fault.message
  | scalar fault => fault.message
  | other message => message

namespace SymbolTable

/-- The suffixes of documents. -/
def documentSuffixes : List String := [".json", ".yaml", ".yml"]

/-- The suffixes of sheets. -/
def sheetSuffixes : List String := [".csv"]

/-- The table of a document. -/
def ofDocument : Datum → Except TableFault SymbolTable
  | .null => .ok .empty
  | .mapping entries => flatten "" entries
  | .cycle => .error .endless
  | _ => .error .notMapping

/-- A table with the rows of a sheet inserted in order. A value that is NaN is left out. -/
def insertRows (table : SymbolTable) : List (Datum × Datum) → Except TableFault SymbolTable
  | [] => .ok table
  | (path, value) :: rows =>
    match number path.toText value with
    | .error fault => .error fault
    | .ok x => insertRows (if x.isNaN then table else table.insert path.toText x) rows

/-- The columns that a sheet must have, by name. -/
def sheetColumns : List String := ["path", "value"]

/-- The table of a sheet. -/
def ofSheet (sheet : Csv.Sheet) : Except TableFault SymbolTable :=
  match sheet.column? "path", sheet.column? "value" with
  | some paths, some values => insertRows .empty (paths.cells.zip values.cells)
  | _, _ => .error (.missingColumns (sheetColumns.filter fun name => !sheet.names.contains name))

/-- The name that messages give to the source at a path. -/
def sourceName (path : String) : String := normalPath path

/-- The table of what a reader makes of a file's content. -/
def readWith {α : Type} (malformed : TableFault) (read : List UInt8 → Except ReadFault α)
    (table : α → Except TableFault SymbolTable) (content : Except AccessFault (List UInt8)) :
    Except LoadFault SymbolTable := do
  let bytes ← content.mapError .access
  let source ← (read bytes).mapError (.ofRead malformed)
  (table source).mapError .table

/-- The table of the file at a path, read as its suffix says. -/
def loadFrom (look : String → Access) (readers : Readers) (path : String) : Except LoadFault SymbolTable :=
  match look path with
  | .missing => .error (.table .notFound)
  | .refused fault => .error (.access fault)
  | .found content =>
    let suffix := Text.lower (suffixOf path)
    if documentSuffixes.contains suffix then readWith .malformedDocument readers.document ofDocument content
    else if sheetSuffixes.contains suffix then readWith .malformedRecords readers.sheet ofSheet content
    else .error (.table (.unsupported suffix (sheetSuffixes ++ documentSuffixes)))

/-- The table of the file at a path among files. -/
def load (files : Files) (path : String) : Except LoadFault SymbolTable := loadFrom files.look .own path

end SymbolTable
end MetricExpr
