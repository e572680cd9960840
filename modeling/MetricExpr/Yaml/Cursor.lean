/-!
# Places in a document

A cursor stands in front of the rest of a document and knows its line, its column and how many characters it has passed.
-/
namespace MetricExpr.Yaml

/-- Characters that end a line. -/
def isBreak (c : Char) : Bool := ['\n', '\r', '\x85', '\u2028', '\u2029'].contains c

/-- What separates tokens: a blank, a tab, a line break, or the end. -/
def isGap : Option Char → Bool
  | none => true
  | some c => c == ' ' || c == '\t' || isBreak c

/-- Characters that may stand in a document at all. -/
def isAllowed (c : Char) : Bool :=
  c == '\t' || c == '\n' || c == '\r' || c == '\x85' || (' ' ≤ c && c ≤ '~') || ('\xa0' ≤ c && c ≤ '\ufffd') ||
    0x10000 ≤ c.toNat

structure Cursor where
  rest : List Char
  line : Nat
  column : Nat
  index : Nat

namespace Cursor

def start (cs : List Char) : Cursor := ⟨cs, 0, 0, 0⟩

/-- The character that is `n` places ahead. -/
def peek (s : Cursor) (n : Nat) : Option Char := s.rest[n]?

/-- Is the next character this one? -/
def at? (s : Cursor) (c : Char) : Bool := s.rest.head? == some c

/-- One character further. A line ends after its break; the two characters of a combined break are one. -/
def step (s : Cursor) : Cursor :=
  match s.rest with
  | [] => s
  | c :: rest =>
    if isBreak c && !(c == '\r' && rest.head? == some '\n') then ⟨rest, s.line + 1, 0, s.index + 1⟩
    else ⟨rest, s.line, if c == '\ufeff' then s.column else s.column + 1, s.index + 1⟩

/-- Some characters further. -/
def skip : Nat → Cursor → Cursor
  | 0, s => s
  | n + 1, s => skip n s.step

/-- Past all characters of a class. -/
def skipWhile (p : Char → Bool) (s : Cursor) : Cursor := s.skip (s.rest.takeWhile p).length

/-- The text of a line break in front, and the place after it. -/
def lineBreak? (s : Cursor) : Option (Char × Cursor) :=
  match s.rest with
  | '\r' :: '\n' :: _ => some ('\n', s.skip 2)
  | c :: _ => if isBreak c then some (if c == '\u2028' || c == '\u2029' then c else '\n', s.step) else none
  | [] => none

/-- Do three equal marks stand here, with a gap after them? -/
def marks (s : Cursor) (c : Char) : Bool :=
  s.rest.take 3 == [c, c, c] && isGap (s.peek 3)

/-- Does a line that separates documents start here? -/
def atSeparator (s : Cursor) : Bool := s.marks '-' || s.marks '.'

end Cursor
end MetricExpr.Yaml
