import MetricExpr.Csv.Sheet
import MetricExpr.Files
import MetricExpr.Frame
import MetricExpr.Text.Encoding
/-!
# Samples

A sheet of samples is a frame: a row for each sample, and a column for each metric. A column of the sheet may label the
rows; otherwise columns beyond the header do, or the rows are counted from zero.
-/
namespace MetricExpr

/-- A frame, and the name of what labels its rows. -/
structure Samples where
  frame : Frame
  indexName : Option String

/-- Why a file gives no samples. -/
inductive SamplesFault where
  /-- The system does not let the file be read. -/
  | access (path : String) (fault : AccessFault)
  /-- The bytes are no sheet, or it has no column of the name that is asked for. The message gives no details. -/
  | malformed
  deriving DecidableEq, Repr

def SamplesFault.message : SamplesFault → String
  | access path fault => fault.message path
  | malformed => "<detail>"

namespace Samples

/-- The label of a row that several columns label. -/
def jointLabel (labels : List Datum) : Datum := .text ("(" ++ ", ".intercalate (labels.map Datum.inner) ++ ")")

/-- The labels of rows that a column gives. Its cells are read again, so that truth values beside missing ones are numbers. -/
def labelsOf (cells : List Datum) : List Datum :=
  let isFlag (d : Datum) : Bool := match d with
    | .flag _ => true
    | _ => false
  if cells.all isFlag then cells
  else
    cells.map fun d => match d with
      | .flag b => .real (Binary64.ofInt b.toInt)
      | d => d

/-- The labels of rows when no column is asked for. -/
def rowLabels (sheet : Csv.Sheet) : List Datum :=
  let rows := List.range sheet.height
  match sheet.labels with
  | [] => rows.map fun (i : Nat) => .integer i
  | [labels] => labels
  | several => rows.map fun i => jointLabel (several.map fun labels => labels.getD i .null)

/-- The samples of a sheet, with a column that labels the rows or without one. -/
def ofSheet (index : Option String) (sheet : Csv.Sheet) : Except Csv.Fault Samples :=
  let columns := sheet.columns.map fun c => Column.mk c.name c.cells
  match index with
  | none => .ok ⟨⟨rowLabels sheet, columns⟩, none⟩
  | some name =>
    match sheet.labels, sheet.column? name with
    | [], some c =>
      .ok ⟨⟨labelsOf c.cells, columns.filter (·.label != name)⟩, if c.named then some name else none⟩
    | _, _ => .error (.noSuchColumn name)

/-- The samples of a text. -/
def ofText (index : Option String) (text : String) : Except Csv.Fault Samples :=
  (Csv.Sheet.ofText text).bind (ofSheet index)

/-- The bytes of the file at a path. No path at all leads nowhere. -/
def content (files : Files) (path : String) : Except AccessFault (List UInt8) :=
  match files.look path with
  | .missing => .error .notFound
  | .refused fault => .error fault
  | .found (.ok bytes) => .ok bytes
  | .found (.error fault) => .error (if path.isEmpty then .notFound else fault)

/-- The samples of a file. -/
def load (files : Files) (path : String) (index : Option String) : Except SamplesFault Samples := do
  let bytes ← (content files path).mapError (.access path)
  let text ← (Text.decode bytes).mapError fun _ => .malformed
  (ofText index text).mapError fun _ => .malformed

end Samples
end MetricExpr
