import MetricExpr.Yaml.Scalar
/-!
# Tokens of a document

A document is cut into scalars and marks. Indentation opens and closes blocks, which become marks of their own. A colon
can make a key of the scalar or collection before it on the same line, so the mark for that key is put in front of it
afterwards. Anchors, aliases, tags, directives and block scalars are refused.
-/
namespace MetricExpr.Yaml

inductive Token where
  | separator
  | terminator
  | blockList
  | blockMap
  | blockEnd
  | listStart
  | listEnd
  | mapStart
  | mapEnd
  | item
  | comma
  | key
  | value
  | scalar (text : List Char) (plain : Bool)
  deriving DecidableEq, Repr

/-- A scalar or collection that a colon may still make a key: where its tokens start, and where it stands. -/
structure Candidate where
  token : Nat
  required : Bool
  line : Nat
  column : Nat
  index : Nat

/-- The state of cutting a document: the depth of brackets, the columns of the open blocks, whether a key may start
here, and the candidate of each depth. -/
structure Scan where
  place : Cursor
  depth : Nat
  indent : Int
  outer : List Int
  keyAllowed : Bool
  candidates : List (Nat × Candidate)
  tokens : Array Token

namespace Scan

def start (cs : List Char) : Scan := ⟨.start cs, 0, -1, [], true, [], #[]⟩

def inFlow (s : Scan) : Bool := s.depth != 0

def push (s : Scan) (t : Token) : Scan := { s with tokens := s.tokens.push t }

def insertAt (s : Scan) (i : Nat) (t : Token) : Scan :=
  { s with tokens := (s.tokens.toList.take i ++ t :: s.tokens.toList.drop i).toArray }

/-- Past blanks, comments and line breaks. A new line outside brackets may start with a key. -/
def skipGap (place : Cursor) (flow allowed : Bool) : Cursor × Bool :=
  let s := place.skipWhile (· == ' ')
  let s := if s.at? '#' then s.skipWhile (!isBreak ·) else s
  match s.lineBreak? with
  | none => (s, allowed)
  | some (_, after) =>
    if after.rest.length < place.rest.length then skipGap after flow (allowed || !flow) else (after, allowed)
termination_by place.rest.length

/-- Drop the candidates that are on an earlier line or too far back; a required one is missed. -/
def expire (s : Scan) : Option Scan :=
  let stale (c : Candidate) : Bool := c.line != s.place.line || c.index + 1024 < s.place.index
  if s.candidates.any fun (_, c) => stale c && c.required then none
  else some { s with candidates := s.candidates.filter fun (_, c) => !stale c }

/-- Take the candidate of the current depth away; a required one is missed. -/
def dropCandidate (s : Scan) : Option Scan :=
  match s.candidates.lookup s.depth with
  | some c => if c.required then none else some { s with candidates := s.candidates.filter (·.1 != s.depth) }
  | none => some s

/-- Note that what comes next may turn out to be a key. -/
def saveCandidate (s : Scan) : Option Scan :=
  if s.keyAllowed then do
    let required := !s.inFlow && s.indent == s.place.column
    let s ← s.dropCandidate
    let c : Candidate := ⟨s.tokens.size, required, s.place.line, s.place.column, s.place.index⟩
    return { s with candidates := (s.depth, c) :: s.candidates }
  else some s

/-- Close the blocks that are indented further than a column. -/
def unwind (column indent : Int) (outer : List Int) (tokens : Array Token) : Int × List Int × Array Token :=
  if column < indent then
    match outer with
    | [] => (-1, [], tokens.push .blockEnd)
    | next :: outer => unwind column next outer (tokens.push .blockEnd)
  else (indent, outer, tokens)

def unwindTo (s : Scan) (column : Int) : Scan :=
  if s.inFlow then s
  else
    let (indent, outer, tokens) := unwind column s.indent s.outer s.tokens
    { s with indent, outer, tokens }

/-- Open a block at a column unless one is open there. -/
def openBlock (s : Scan) (column : Int) : Scan × Bool :=
  if s.indent < column then ({ s with indent := column, outer := s.indent :: s.outer }, true) else (s, false)

def move (s : Scan) (place : Cursor) : Scan := { s with place }

/-- A line that separates or ends documents. -/
def readSeparator (s : Scan) (t : Token) : Option Scan := do
  let s ← (s.unwindTo (-1)).dropCandidate
  return { s with keyAllowed := false, place := s.place.skip 3 }.push t

def readOpening (s : Scan) (t : Token) : Option Scan := do
  let s ← s.saveCandidate
  return { s with depth := s.depth + 1, keyAllowed := true, place := s.place.step }.push t

def readClosing (s : Scan) (t : Token) : Option Scan := do
  if s.depth == 0 then none
  else
    let s ← s.dropCandidate
    return { s with depth := s.depth - 1, keyAllowed := false, place := s.place.step }.push t

def readComma (s : Scan) : Option Scan := do
  let s ← { s with keyAllowed := true }.dropCandidate
  return (s.move s.place.step).push .comma

def readItem (s : Scan) : Option Scan := do
  if s.inFlow || !s.keyAllowed then none
  else
    let (s, opened) := s.openBlock s.place.column
    let s := if opened then s.push .blockList else s
    let s ← { s with keyAllowed := true }.dropCandidate
    return (s.move s.place.step).push .item

def readKey (s : Scan) : Option Scan := do
  if !s.inFlow && !s.keyAllowed then none
  else
    let (s, opened) := if s.inFlow then (s, false) else s.openBlock s.place.column
    let s := if opened then s.push .blockMap else s
    let s ← { s with keyAllowed := !s.inFlow }.dropCandidate
    return (s.move s.place.step).push .key

/-- A colon after a candidate makes it a key; without one it stands for an empty key. -/
def readValue (s : Scan) : Option Scan := do
  match s.candidates.lookup s.depth with
  | some c =>
    let s := { s with candidates := s.candidates.filter (·.1 != s.depth) }.insertAt c.token .key
    let (s, opened) := if s.inFlow then (s, false) else s.openBlock c.column
    let s := if opened then s.insertAt c.token .blockMap else s
    return ({ s with keyAllowed := false }.move s.place.step).push .value
  | none =>
    if !s.inFlow && !s.keyAllowed then none
    else
      let (s, opened) := if s.inFlow then (s, false) else s.openBlock s.place.column
      let s := if opened then s.push .blockMap else s
      let s ← { s with keyAllowed := !s.inFlow }.dropCandidate
      return (s.move s.place.step).push .value

def readQuoted (s : Scan) (double : Bool) : Option Scan := do
  let s ← s.saveCandidate
  let (text, after) ← quotedRest double s.place.step []
  return ({ s with keyAllowed := false }.move after).push (.scalar text false)

def readPlain (s : Scan) : Option Scan := do
  let s ← s.saveCandidate
  let (text, after, broken) := plain s.inFlow (s.indent + 1) s.place [] false
  return ({ s with keyAllowed := broken }.move after).push (.scalar text true)

/-- Marks that no plain scalar starts with. -/
def isMark (c : Char) : Bool :=
  ['-', '?', ':', ',', '[', ']', '{', '}', '#', '&', '*', '!', '|', '>', '\'', '"', '%', '@', '\x60'].contains c

/-- Can a plain scalar start with `c`, before `next`? -/
def startsPlain (flow : Bool) (c : Char) (next : Option Char) : Bool :=
  !(isGap (some c) || isMark c) || (!isGap next && (c == '-' || (!flow && (c == '?' || c == ':'))))

/-- Read the token that starts with `c`. -/
def readToken (s : Scan) (c : Char) : Option Scan :=
  let next := s.place.peek 1
  if s.place.column == 0 && s.place.marks '-' then s.readSeparator .separator
  else if s.place.column == 0 && s.place.marks '.' then s.readSeparator .terminator
  else if s.place.column == 0 && c == '%' then none
  else if c == '[' then s.readOpening .listStart
  else if c == '{' then s.readOpening .mapStart
  else if c == ']' then s.readClosing .listEnd
  else if c == '}' then s.readClosing .mapEnd
  else if c == ',' then s.readComma
  else if c == '-' && isGap next then s.readItem
  else if c == '?' && (s.inFlow || isGap next) then s.readKey
  else if c == ':' && (s.inFlow || isGap next) then s.readValue
  else if c == '\'' then s.readQuoted false
  else if c == '"' then s.readQuoted true
  else if startsPlain s.inFlow c next then s.readPlain
  else none

/-- All tokens of the rest. -/
def run (s : Scan) : Option (List Token) :=
  let (place, keyAllowed) := skipGap s.place s.inFlow s.keyAllowed
  match { s with place, keyAllowed }.expire with
  | none => none
  | some ready =>
    let ready := ready.unwindTo ready.place.column
    match ready.place.rest with
    | [] => ((ready.unwindTo (-1)).dropCandidate).map (·.tokens.toList)
    | c :: _ =>
      match ready.readToken c with
      | none => none
      | some next => if next.place.rest.length < s.place.rest.length then next.run else none
termination_by s.place.rest.length

end Scan

/-- The tokens of a document. A byte-order mark may stand in front of it. -/
def Token.scan? (cs : List Char) : Option (List Token) :=
  if cs.all isAllowed then
    (Scan.start (match cs with | '\ufeff' :: rest => rest | _ => cs)).run
  else none

end MetricExpr.Yaml
