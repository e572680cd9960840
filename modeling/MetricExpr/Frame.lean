import MetricExpr.Expr.Print
import MetricExpr.Resolution.Basic
/-!
# Frames

A frame holds samples of metrics: labelled columns of cells, and one label for each row. A node is resolved once against
the column labels and then evaluated column by column.
-/
namespace MetricExpr

/-- A labelled column of cells. -/
structure Column where
  label : String
  cells : List Datum

/-- Columns over common rows. -/
structure Frame where
  rows : List Datum
  columns : List Column

/-- Why a cell is no number. -/
inductive CellFault where
  | conversion (fault : ConversionFault)
  | sequence
  deriving DecidableEq, Repr

def CellFault.message : CellFault → String
  | conversion fault => fault.message
  | sequence => "setting an array element with a sequence."

/-- Why a resolved frame cannot be evaluated. -/
inductive FrameFault where
  | notUnique (label : String)
  | notNumeric (label : String) (cause : CellFault)
  /-- An integer cell beyond the range of doubles. -/
  | tooLarge
  deriving DecidableEq, Repr

/-- The values of a node, one for each row. -/
inductive Series where
  | numbers (xs : List Binary64)
  | truths (bs : List Bool)
  deriving DecidableEq

namespace FrameFault

/-- The column that a fault is about. -/
def column? : FrameFault → Option String
  | notUnique label => some label
  | notNumeric label _ => some label
  | tooLarge => none

def message : FrameFault → String
  | notUnique label => "Column '" ++ label ++ "': label is not unique"
  | notNumeric label cause => "Column '" ++ label ++ "': values must be numeric (" ++ cause.message ++ ")"
  | tooLarge => ConversionFault.tooLarge.message

end FrameFault

namespace Series

/-- The name of the values' type. -/
def kind : Series → String
  | numbers _ => "float64"
  | truths _ => "bool"

/-- The values as outcomes. -/
def values : Series → List (Outcome Binary64)
  | numbers xs => xs.map .number
  | truths bs => bs.map .truth

def size : Series → Nat
  | numbers xs => xs.length
  | truths bs => bs.length

end Series

namespace Column

/-- A cell as a double: a missing one is NaN. -/
def number (label : String) : Datum → Except FrameFault Binary64
  | .null => .ok .nan
  | .list _ => .error (.notNumeric label .sequence)
  | d =>
    match d.toBinary64 with
    | .ok x => .ok x
    | .error .tooLarge => .error .tooLarge
    | .error fault => .error (.notNumeric label (.conversion fault))

/-- The cells as doubles; the first that is none stops. -/
def numbers (c : Column) : Except FrameFault (List Binary64) := c.cells.mapM (number c.label)

end Column

namespace Frame

def labels (f : Frame) : List String := f.columns.map (·.label)

/-- The last column with a label. -/
def column? (f : Frame) (label : String) : Option Column := f.columns.reverse.find? (·.label == label)

/-- The first of the keys that labels more than one column. -/
def repeated? (f : Frame) (keys : List String) : Option String := keys.find? fun key => 1 < f.labels.count key

/-- The numbers of the column that a variable was resolved to. -/
def variableColumn (f : Frame) (keys : OrderedMap Variable String) (v : Variable) :
    Except FrameFault (List Binary64) :=
  match (keys.get? v).bind f.column? with
  | some c => c.numbers
  | none => .ok (f.rows.map fun _ => .nan)

/-- The column of an expression: constants in every row, operators row by row. -/
def evalColumns (f : Frame) (keys : OrderedMap Variable String) : Expr → Except FrameFault (List Binary64)
  | .const x => .ok (f.rows.map fun _ => .finite x)
  | .var v => f.variableColumn keys v
  | .binary op l r => do
    let xs ← f.evalColumns keys l
    let ys ← f.evalColumns keys r
    return List.zipWith op.apply xs ys

/-- The series of a node whose variables are resolved. -/
def evalSeries (f : Frame) (keys : OrderedMap Variable String) : Node → Except FrameFault Series
  | .expr e => (f.evalColumns keys e).map .numbers
  | .comparison rel l r => do
    let xs ← f.evalColumns keys l
    let ys ← f.evalColumns keys r
    return .truths (List.zipWith rel.apply xs ys)

/-- The series of a node under a resolution of its variables against the labels: none unless it is ok. -/
def evalResolved (f : Frame) (n : Node) : Resolution → Except FrameFault (Option Series)
  | .ok _ keys =>
    match f.repeated? (distinct (keys.map (·.2))) with
    | some label => .error (.notUnique label)
    | none => (f.evalSeries ⟨keys⟩ n).map some
  | _ => .ok none

/-- The series of a node. -/
def eval (f : Frame) (n : Node) (policy : TieBreak) : Except FrameFault (Option Series) :=
  f.evalResolved n (.of n.vars f.labels policy)

/-- The series of a node under its name, which is the structural form of the node. -/
def evalNamed (f : Frame) (n : Node) (policy : TieBreak) : Except FrameFault (Option (String × Series)) :=
  (f.eval n policy).map fun series => series.map (n.structureText, ·)

end Frame
end MetricExpr
