import MetricExpr.Csv.Column
import MetricExpr.Csv.Records
/-!
# Sheets

A sheet is a table of records with a header. The header names the columns, each by a name of its own; the columns that
the first row has beyond the header come first, have no names and label the rows.
-/
namespace MetricExpr.Csv

/-- A named column. `named` tells whether the header itself gives the name. -/
structure SheetColumn where
  name : String
  named : Bool
  cells : List Datum

/-- Columns over rows of equal length. -/
structure Sheet where
  height : Nat
  /-- The columns beyond the header. -/
  labels : List (List Datum)
  columns : List SheetColumn

/-! ## Names -/

/-- The first number from `n` on that makes a name which the header does not have. -/
def freshNumber (header : List String) (name : String) (n : Nat) : Nat :=
  ((List.range' n (header.length + 1)).find? fun k => !header.contains (name ++ "." ++ toString k)).getD n

/-- The header after its names are given out in the order of `places`. `counts` says which number a name that comes
again gets at least. -/
def giveOut (header : List String) (counts : OrderedMap String Nat) : List Nat → List String
  | [] => header
  | i :: places =>
    let name := header.getD i ""
    match counts.get? name with
    | none => giveOut header (counts.insert name 1) places
    | some seen =>
      let n := freshNumber header name seen
      let given := name ++ "." ++ toString n
      giveOut (header.set i given) ((counts.insert name (n + 1)).insert given 1) places

/-- The names of a header's fields: an empty one is named by its place, and one that comes again gets a number. Given
names go before those by place. -/
def columnNames (header : List (List Char)) : List String :=
  let named := header.mapIdx fun i cs => if cs.isEmpty then "Unnamed: " ++ toString i else String.ofList cs
  let places := List.range header.length
  let isNamed (i : Nat) : Bool := !(header.getD i []).isEmpty
  giveOut named .empty (places.filter isNamed ++ places.filter fun i => !isNamed i)

/-! ## Shape -/

/-- The rows, each filled up to a width with empty fields; none may be wider. -/
def fillRows (width : Nat) : List (List (List Char)) → Except Fault (List (List (List Char)))
  | [] => .ok []
  | row :: rows =>
    if width < row.length then .error .tooManyFields
    else do
      let full := row ++ List.replicate (width - row.length) []
      return full :: (← fillRows width rows)

/-- The rows below a header. The first one may be wider than the header, and the others no wider than the first. -/
def shape (width : Nat) (rows : List (List (List Char))) : Except Fault (List (List (List Char))) :=
  match rows with
  | [] => .ok []
  | row :: _ => fillRows (max width row.length) rows

namespace Sheet

/-- The text without the mark that may stand at its start. -/
def withoutMark : List Char → List Char
  | '\uFEFF' :: cs => cs
  | cs => cs

/-- The sheet of a text. -/
def ofText (text : String) : Except Fault Sheet := do
  match ← records (withoutMark text.toList) with
  | [] => .error .noColumns
  | header :: rows =>
    let rows ← shape header.length rows
    let extra := ((rows.head?.map List.length).getD header.length) - header.length
    let cellsAt (i : Nat) : List Datum := column (rows.map fun row => row.getD i [])
    return {
      height := rows.length
      labels := (List.range extra).map cellsAt
      columns := (columnNames header).mapIdx fun i name =>
        ⟨name, !(header.getD i []).isEmpty, cellsAt (extra + i)⟩
    }

def column? (s : Sheet) (name : String) : Option SheetColumn := s.columns.find? (·.name == name)

def names (s : Sheet) : List String := s.columns.map (·.name)

end Sheet
end MetricExpr.Csv
