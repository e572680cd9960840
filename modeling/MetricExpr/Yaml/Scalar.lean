import MetricExpr.Text.Digit
import MetricExpr.Yaml.Cursor
/-!
# Scalars of a document

Plain scalars end where a mark of the document can start; they and quoted scalars may go over several lines, which are
folded. Double quotes know escapes.
-/
namespace MetricExpr.Yaml

/-- Marks that end a plain scalar between brackets. -/
def flowMarks : List Char := [',', '?', '[', ']', '{', '}']

/-- The run of a plain scalar in front of a text, up to a gap, or to a colon before a gap; between brackets also up to
their marks. -/
def plainRun (flow : Bool) : List Char → List Char
  | [] => []
  | c :: cs =>
    let ends := isGap (some c) || (flow && flowMarks.contains c) ||
      (c == ':' && (isGap cs.head? || (flow && cs.head?.any [',', '[', ']', '{', '}'].contains)))
    if ends then [] else c :: plainRun flow cs

/-- Line breaks with blanks between them, up to a document separator: the breaks, the place after them, and whether a
separator was reached. -/
def plainBreaks (s : Cursor) (breaks : List Char) : List Char × Cursor × Bool :=
  let s' := s.skipWhile (· == ' ')
  match s'.lineBreak? with
  | none => (breaks, s', false)
  | some (b, after) =>
    if after.atSeparator then (breaks, after, true)
    else if after.rest.length < s.rest.length then plainBreaks after (breaks ++ [b]) else (breaks, after, false)
termination_by s.rest.length

/-- The folded gap after a run of a plain scalar. The scalar ends if there is none. The flag says whether a line ended. -/
def plainGap (s : Cursor) : Option (List Char) × Cursor × Bool :=
  let blanks := s.rest.takeWhile (· == ' ')
  let s := s.skip blanks.length
  match s.lineBreak? with
  | none => (if blanks.isEmpty then none else some blanks, s, false)
  | some (b, after) =>
    if after.atSeparator then (none, after, true)
    else
      let (breaks, after, separated) := plainBreaks after []
      if separated then (none, after, true)
      else
        let first := if b != '\n' then [b] else if breaks.isEmpty then [' '] else []
        (some (first ++ breaks), after, true)

/-- A plain scalar: its text, the place after it, and whether it ended on a later line than its last run. -/
def plain (flow : Bool) (indent : Int) (s : Cursor) (gap : List Char) (broken : Bool) : List Char × Cursor × Bool :=
  if s.at? '#' then ([], s, broken)
  else
    let run := plainRun flow s.rest
    if run.isEmpty then ([], s, broken)
    else
      let (next, after, ended) := plainGap (s.skip run.length)
      match next with
      | none => (gap ++ run, after, ended)
      | some next =>
        if after.at? '#' || (!flow && (after.column : Int) < indent) then (gap ++ run, after, ended)
        else if after.rest.length < s.rest.length then
          let (text, last, ended) := plain flow indent after next ended
          (gap ++ run ++ text, last, ended)
        else (gap ++ run, after, ended)
termination_by s.rest.length

/-- The character of a one-letter escape. -/
def escape? (c : Char) : Option Char :=
  [('0', '\x00'), ('a', '\x07'), ('b', '\x08'), ('t', '\t'), ('\t', '\t'), ('n', '\n'), ('v', '\x0b'), ('f', '\x0c'),
    ('r', '\r'), ('e', '\x1b'), (' ', ' '), ('"', '"'), ('\\', '\\'), ('/', '/'), ('N', '\x85'), ('_', '\xa0'),
    ('L', '\u2028'), ('P', '\u2029')].lookup c

/-- How many hexadecimal digits follow an escape letter. -/
def escapeDigits? (c : Char) : Option Nat := [('x', 2), ('u', 4), ('U', 8)].lookup c

/-- Blanks and line breaks inside quotes: the breaks, and the place after them. A document separator is refused. -/
def quotedBreaks (s : Cursor) (breaks : List Char) : Option (List Char × Cursor) :=
  if s.atSeparator then none
  else
    let s' := s.skipWhile fun c => c == ' ' || c == '\t'
    match s'.lineBreak? with
    | none => some (breaks, s')
    | some (b, after) =>
      if after.rest.length < s.rest.length then quotedBreaks after (breaks ++ [b]) else none
termination_by s.rest.length

/-- The folded gap inside quotes. -/
def quotedGap (s : Cursor) : Option (List Char × Cursor) :=
  let blanks := s.rest.takeWhile fun c => c == ' ' || c == '\t'
  let s := s.skip blanks.length
  match s.lineBreak? with
  | none => some (blanks, s)
  | some (b, after) => do
    let (breaks, after) ← quotedBreaks after []
    let first := if b != '\n' then [b] else if breaks.isEmpty then [' '] else []
    return (first ++ breaks, after)

/-- An escape after its backslash: what it stands for, and the place after it. -/
def escaped (s : Cursor) : Option (List Char × Cursor) := do
  let c ← s.peek 0
  match escape? c, escapeDigits? c with
  | some e, _ => some ([e], s.step)
  | none, some n => do
    let digits := (s.rest.drop 1).take n
    let code ← Text.hexValue? digits
    if digits.length < n || 0x10FFFF < code then none else some ([Char.ofNat code], s.skip (n + 1))
  | none, none => do
    let (_, after) ← s.lineBreak?
    quotedBreaks after []

/-- The next piece of a quoted scalar, or nothing at its closing quote, and the place after it. -/
def quotedPiece (double : Bool) (s : Cursor) : Option (Option (List Char) × Cursor) := do
  let c ← s.peek 0
  let quote := if double then '"' else '\''
  if c == quote then
    if !double && s.peek 1 == some '\'' then return (some ['\''], s.skip 2) else return (none, s.step)
  else if double && c == '\\' then
    let (chars, after) ← escaped s.step
    return (some chars, after)
  else if isGap (some c) then
    let (gap, after) ← quotedGap s
    return (some gap, after)
  else return (some [c], s.step)

/-- The rest of a quoted scalar after its opening quote: its text, and the place after the closing quote. -/
def quotedRest (double : Bool) (s : Cursor) (text : List Char) : Option (List Char × Cursor) :=
  match quotedPiece double s with
  | none => none
  | some (none, after) => some (text, after)
  | some (some more, after) =>
    if after.rest.length < s.rest.length then quotedRest double after (text ++ more) else none
termination_by s.rest.length

end MetricExpr.Yaml
