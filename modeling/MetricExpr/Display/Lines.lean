import MetricExpr.Display.Markup
import MetricExpr.Text.Blank
import MetricExpr.Text.Cells
/-!
# Lines

The console is eighty cells wide. A text is broken into lines between words; a word that is wider than the line is
folded, or it is cut off and ends in an ellipsis. Blanks at the end of a line stay as far as there is room.
-/
namespace MetricExpr.Display

/-- The width of the console. -/
def consoleWidth : Nat := 80

/-- What becomes of a word that is wider than the line. -/
inductive Overflow where
  | fold | ellipsis
  deriving DecidableEq, Repr

/-- The place of a text in its line. `natural` adds no blanks. -/
inductive Align where
  | natural | left | centre | right
  deriving DecidableEq, Repr

/-! ## Characters -/

def blanks (n : Nat) : List Char := List.replicate n ' '

/-- Control characters that are never shown. -/
def isHidden (c : Char) : Bool := c == '\x07' || c == '\x08' || c == '\x0B' || c == '\x0C' || c == '\r'

/-- Tabs as blanks up to the next multiple of eight cells; `used` cells of the line are taken. -/
def expandTabs (used : Nat) : List Char → List Char
  | [] => []
  | '\t' :: cs =>
    let n := 8 - used % 8
    blanks n ++ expandTabs (used + n) cs
  | c :: cs => c :: expandTabs (used + Text.cellWidth c) cs

/-- The lines of a text between line feeds. -/
def splitLines : List Char → List (List Char)
  | [] => [[]]
  | c :: cs =>
    match splitLines cs with
    | [] => [[c]]
    | line :: lines => if c == '\n' then [] :: line :: lines else (c :: line) :: lines

/-- The lines of a text as they are written, before they are broken. -/
def writtenLines (cs : List Char) : List (List Char) :=
  (splitLines (cs.filter fun c => !isHidden c)).map (expandTabs 0)

/-! ## Widths -/

/-- The front of a text up to this many cells. It ends with the character that fills the last one. -/
def takeCells (width : Nat) : List Char → List Char
  | [] => []
  | c :: cs =>
    if 0 < width ∧ Text.cellWidth c ≤ width then c :: takeCells (width - Text.cellWidth c) cs else []

/-- A text with at least this many cells cut off there; half of a wide character is a blank. -/
def crop (width : Nat) (cs : List Char) : List Char :=
  let front := takeCells width cs
  front ++ blanks (width - Text.cells front)

/-- A text that is wider than the line is cut off. -/
def truncate (overflow : Overflow) (width : Nat) (cs : List Char) : List Char :=
  if Text.cells cs ≤ width then cs
  else match overflow with
    | .fold => crop width cs
    | .ellipsis => crop (width - 1) cs ++ ['…']

/-- A text in a line of exactly this width. -/
def fit (width : Nat) (cs : List Char) : List Char :=
  let size := Text.cells cs
  if size ≤ width then cs ++ blanks (width - size) else crop width cs

def trimEnd (cs : List Char) : List Char := (cs.reverse.dropWhile Text.isBlank).reverse

/-- The text without those blanks at its end that are past the width. -/
def trimPast (width : Nat) (cs : List Char) : List Char :=
  let blank := (cs.reverse.takeWhile Text.isBlank).length
  cs.take (cs.length - min blank (cs.length - width))

/-- A text put in its place in the line. -/
def align (a : Align) (overflow : Overflow) (width : Nat) (cs : List Char) : List Char :=
  match a with
  | .natural => cs
  | .left =>
    let line := truncate overflow width cs
    line ++ blanks (width - Text.cells line)
  | .centre =>
    let line := truncate overflow width (trimEnd cs)
    let left := (width - Text.cells line) / 2
    blanks left ++ line ++ blanks (width - Text.cells line - left)
  | .right =>
    let line := truncate overflow width (trimEnd cs)
    blanks (width - Text.cells line) ++ line

/-! ## Breaking -/

/-- The words of a text, each with the blanks after it; blanks in front belong to the first one. `word` is begun, with
its last character first, and `full` once it is more than blanks. -/
def wordsFrom (word : List Char) (full : Bool) : List Char → List (List Char)
  | [] => if full then [word.reverse] else []
  | c :: cs =>
    if full && word.head?.any Text.isBlank && !Text.isBlank c then word.reverse :: wordsFrom [c] true cs
    else wordsFrom (c :: word) (full || !Text.isBlank c) cs

def words (cs : List Char) : List (List Char) := wordsFrom [] false cs

/-- A word in parts of at most this many cells, after a part that is begun. A character wider than that still gets a
part of its own. -/
def chop (width : Nat) (part : List Char) (used : Nat) : List Char → List (List Char)
  | [] => [part.reverse]
  | c :: cs =>
    let w := Text.cellWidth c
    if width < used + w then part.reverse :: chop width [c] w cs else chop width (c :: part) (used + w) cs

/-- The places at which lines are broken; the front of a text is none. -/
def breakAt (place : Nat) : List Nat := if place = 0 then [] else [place]

/-- The breaks before the parts of a folded word, and the cells of its last part. -/
def foldBreaks (place : Nat) : List (List Char) → List Nat × Nat
  | [] => ([], 0)
  | [part] => (breakAt place, Text.cells part)
  | part :: parts =>
    let (rest, used) := foldBreaks (place + part.length) parts
    (breakAt place ++ rest, used)

/-- The places at which the line of these words is broken, when the first of them is at a place and some cells of its
line are used. -/
def breaks (overflow : Overflow) (width place used : Nat) : List (List Char) → List Nat
  | [] => []
  | word :: rest =>
    let next := place + word.length
    let size := Text.cells (trimEnd word)
    if used + size ≤ width then breaks overflow width next (used + Text.cells word) rest
    else if width < size then
      match overflow with
      | .fold =>
        let (here, used) := foldBreaks place (chop width [] 0 word)
        here ++ breaks overflow width next used rest
      | .ellipsis => breakAt place ++ breaks overflow width next (Text.cells word) rest
    else if used ≠ 0 ∧ place ≠ 0 then place :: breaks overflow width next (Text.cells word) rest
    else breaks overflow width next used rest

/-- The parts of a text between places; the first of them is at a place itself. -/
def cutAt (place : Nat) (cs : List Char) : List Nat → List (List Char)
  | [] => [cs]
  | next :: rest => cs.take (next - place) :: cutAt next (cs.drop (next - place)) rest

/-- One line of a text, broken. -/
def breakLine (overflow : Overflow) (a : Align) (width : Nat) (cs : List Char) : List (List Char) :=
  (cutAt 0 cs (breaks overflow width 0 0 (words cs))).map fun line =>
    truncate overflow width (align a overflow width (trimPast width line))

/-- A text in lines of at most this width; where there is no room at all it has no lines. -/
def lines (overflow : Overflow) (a : Align) (width : Nat) (cs : List Char) : List (List Char) :=
  if width = 0 then [] else (writtenLines cs).flatMap (breakLine overflow a width)

/-! ## Printing -/

/-- Lines as the console prints them: cut off at its width, and each with a line end. -/
def print (ls : List (List Char)) : String := String.ofList (ls.flatMap fun line => truncate .fold consoleWidth line ++ ['\n'])

/-- A text with markup, broken into lines. -/
def paragraph (s : String) : String := print (lines .fold .natural consoleWidth (Markup.shown s))

/-- A text whose lines are not broken. -/
def verbatim (cs : List Char) : String :=
  String.ofList ((writtenLines cs).flatMap fun line => trimPast consoleWidth line ++ ['\n'])

/-- A text with markup whose lines are not broken. -/
def unbroken (s : String) : String := verbatim (Markup.shown s)

end MetricExpr.Display
