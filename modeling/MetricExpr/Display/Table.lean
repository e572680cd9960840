import MetricExpr.Binary64.Rounding
import MetricExpr.Display.Lines
/-!
# Tables

A table has a title and named columns. Every column is as wide as its widest cell and a blank on both sides. A table
that is too wide for the console takes width from its widest columns first, and their cells are broken into lines.
-/
namespace MetricExpr.Display

/-- A column; header and cells carry markup. -/
structure TableColumn where
  header : String
  align : Align
  cells : List String

/-- A table with a frame around its cells, or without any lines. -/
structure Table where
  title : String
  framed : Bool
  height : Nat
  columns : List TableColumn

/-! ## Widths -/

/-- Does the character end a line when the width of a text is measured? -/
def endsLine (c : Char) : Bool :=
  c == '\n' || (0x1C ≤ c.toNat && c.toNat ≤ 0x1E) || c.toNat == 0x85 || c.toNat == 0x2028 || c.toNat == 0x2029

/-- The cells of the widest line of a text. -/
def naturalWidth (used : Nat) : List Char → Nat
  | [] => used
  | c :: cs =>
    if endsLine c then max used (naturalWidth 0 cs)
    else naturalWidth (used + if isHidden c then 0 else Text.cellWidth c) cs

/-- The width that a cell asks for, of those that there are. -/
def cellWish (room : Nat) (cell : String) : Nat :=
  if room < 3 then room else min room (naturalWidth 0 (Markup.shown cell) + 2)

namespace TableColumn

/-- The width that a column asks for, of those that there are. -/
def wish (room : Nat) (c : TableColumn) : Nat := ((c.header :: c.cells).map (cellWish room)).foldl max 0

end TableColumn

/-- The width of columns together. -/
def total (widths : List Nat) : Nat := widths.foldl (· + ·) 0

/-- Take an amount from values in equal shares, as far as each one's limit allows. `shares` of them are left. -/
def reduce (amount shares : Nat) : List (Nat × Option Nat) → List Nat
  | [] => []
  | (value, none) :: rest => value :: reduce amount shares rest
  | (value, some limit) :: rest =>
    let part := min limit (roundDiv amount shares)
    (value - part) :: reduce (amount - part) (shares - 1) rest

/-- Take width from the widest columns until the second widest are reached, and so on until the total fits. -/
def collapse (room : Nat) (widths : List Nat) : Nat → List Nat
  | 0 => widths
  | fuel + 1 =>
    let excess := total widths - room
    let widest := widths.foldl max 0
    let second := (widths.filter (· != widest)).foldl max 0
    if excess = 0 || widest = second then widths
    else
      let limit := min excess (widest - second)
      let marked := widths.map fun w => (w, if w = widest then some limit else none)
      collapse room (reduce excess (widths.count widest) marked) fuel

/-- Take width from all columns alike if the total still does not fit. -/
def squeeze (room : Nat) (widths : List Nat) : List Nat :=
  let excess := total widths - room
  if excess = 0 then widths
  else reduce excess (widths.countP (· != 0)) (widths.map fun w => (w, if w = 0 then none else some w))

namespace Table

/-- The cells that the lines of the frame take. -/
def frameWidth (t : Table) : Nat := if t.framed then t.columns.length + 1 else 0

/-- The widths of the columns. -/
def widths (t : Table) : List Nat :=
  let room := consoleWidth - t.frameWidth
  let wishes := t.columns.map fun c => max 1 (c.wish room)
  if total wishes ≤ room then wishes
  else
    let fitted := squeeze room (collapse room wishes (total wishes))
    List.zipWith (fun w c => c.wish w) fitted t.columns

/-! ## Rows -/

/-- The lines of a cell, each as wide as its column. -/
def cellLines (width : Nat) (a : Align) (cell : String) : List (List Char) :=
  (lines .ellipsis a (width - 2) (Markup.shown cell)).map fun line => fit width (' ' :: fit (width - 2) line ++ [' '])

/-- A cell's lines filled up to the height of its row, at the top or at the bottom. -/
def fill (atTop : Bool) (width height : Nat) (ls : List (List Char)) : List (List Char) :=
  let empty := List.replicate (height - ls.length) (blanks width)
  if atTop then ls ++ empty else empty ++ ls

/-- The lines of a row: the cells side by side, with an edge before, between and after them if there is one. -/
def rowLines (atTop : Bool) (edge : List Char) (widths : List Nat) (cells : List (List (List Char))) :
    List (List Char) :=
  let height := (cells.map List.length).foldl max 1
  let filled := List.zipWith (fun w ls => fill atTop w height ls) widths cells
  (List.range height).map fun i =>
    edge ++ edge.intercalate (filled.map fun ls => ls.getD i []) ++ edge

/-- A line of the frame. -/
def rule (left line cross right : Char) (widths : List Nat) : List Char :=
  left :: [cross].intercalate (widths.map fun w => List.replicate w line) ++ [right]

/-- The lines of one row of cells. -/
def row (t : Table) (atTop : Bool) (edge : List Char) (widths : List Nat) (cellOf : TableColumn → String) :
    List (List Char) :=
  rowLines atTop edge widths (List.zipWith (fun w c => cellLines w c.align (cellOf c)) widths t.columns)

/-- The lines of a table. -/
def lines (t : Table) : List (List Char) :=
  let widths := t.widths
  let title := Display.lines .fold .centre (total widths + t.frameWidth) (Markup.shown t.title)
  let header := t.row false (if t.framed then ['┃'] else []) widths (·.header)
  let body := (List.range t.height).flatMap fun i =>
    t.row true (if t.framed then ['│'] else []) widths fun c => c.cells.getD i ""
  if t.framed then
    title ++ [rule '┏' '━' '┳' '┓' widths] ++ header ++ [rule '┡' '━' '╇' '┩' widths] ++ body ++
      [rule '└' '─' '┴' '┘' widths]
  else title ++ header ++ body

def print (t : Table) : String := Display.print t.lines

end Table
end MetricExpr.Display
