import MetricExpr.Display.Lines
import MetricExpr.Expr.Print
/-!
# Outlines

A tree is shown as an outline: every label on a line of its own, below its parent, with guides that lead to it. A short
text is shown in a panel with a title.
-/
namespace MetricExpr.Display

/-- A tree of labels with markup. -/
inductive Outline where
  | item (label : String) (children : List Outline)

namespace Outline

/-- A label in the lines that a prefix leaves room for; later lines have a prefix of their own. -/
def labelLines (first later : List Char) (label : String) : List (List Char) :=
  match Display.lines .fold .natural (consoleWidth - first.length) (Markup.shown label) with
  | [] => []
  | line :: rest => (first ++ line) :: rest.map (later ++ ·)

mutual

/-- The lines of a tree: the prefix of its label, and the prefix of everything below. -/
def linesBelow (first later : List Char) : Outline → List (List Char)
  | item label children => labelLines first later label ++ childLines later children

/-- The lines of children; the guide of the last one ends there. -/
def childLines (guides : List Char) : List Outline → List (List Char)
  | [] => []
  | [child] => linesBelow (guides ++ "└── ".toList) (guides ++ "    ".toList) child
  | child :: children =>
    linesBelow (guides ++ "├── ".toList) (guides ++ "│   ".toList) child ++ childLines guides children

end

def lines (t : Outline) : List (List Char) := linesBelow [] [] t

def print (t : Outline) : String := Display.print t.lines

end Outline

/-! ## Nodes -/

/-- The outline of an expression. -/
def exprOutline : Expr → Outline
  | .const x => .item ("[cyan]Const[/] " ++ String.ofList x.chars) []
  | .var v =>
    .item ("[green]Var[/] \"" ++ Markup.escape v.text ++ "\" [dim](" ++ toString v.wildcards ++ " wildcard(s))[/]") []
  | .binary op l r => .item ("[bold]" ++ op.name ++ "[/] " ++ op.symbol) [exprOutline l, exprOutline r]

/-- The outline of a node. -/
def nodeOutline : Node → Outline
  | .expr e => exprOutline e
  | .comparison rel l r =>
    .item ("[bold magenta]" ++ rel.name ++ "[/] " ++ rel.symbol) [exprOutline l, exprOutline r]

/-! ## Panels -/

/-- The lines of a panel across the console. -/
def panelLines (title text : String) : List (List Char) :=
  let inner := consoleWidth - 2
  let heading := ' ' :: title.toList ++ [' ']
  let excess := inner - Text.cells heading
  let top := '╭' :: List.replicate (excess / 2) '─' ++ heading ++ List.replicate (excess - excess / 2) '─' ++ ['╮']
  let body := (lines .fold .natural (inner - 2) (Markup.shown text)).map fun line =>
    '│' :: ' ' :: fit (inner - 2) line ++ [' ', '│']
  top :: body ++ ['╰' :: List.replicate inner '─' ++ ['╯']]

def panel (title text : String) : String := print (panelLines title text)

end MetricExpr.Display
