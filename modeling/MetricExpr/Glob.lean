import MetricExpr.Text.Quoted
/-!
# Globs

A glob is literal text with wildcards. Each `*` stands for any run of characters, dots, line breaks and the empty run
included; every other character stands for itself. A glob matches whole keys and captures what its wildcards stand for.
Where a key can be split in several ways, an earlier wildcard takes as much as it can.
-/
namespace MetricExpr

/-- The text of a glob, without surrounding quotes. -/
structure Glob where
  text : String
  deriving DecidableEq, Repr, Inhabited

namespace Glob

/-- The text without one pair of surrounding double quotes. -/
def unquoted (cs : List Char) : List Char :=
  match cs with
  | '"' :: rest => if rest.getLast? == some '"' then rest.dropLast else cs
  | _ => cs

/-- A glob from its text, bare or quoted. -/
def ofText (s : String) : Glob := ⟨String.ofList (unquoted s.toList)⟩

/-- The literal before the first wildcard, and the literal after each wildcard. -/
def split : List Char → List Char × List (List Char)
  | [] => ([], [])
  | c :: cs =>
    let (lit, tails) := split cs
    if c = '*' then ([], lit :: tails) else (c :: lit, tails)

/-- The glob as messages name its pattern. -/
def describe (g : Glob) : String := "Pattern(" ++ Text.quote g.text ++ ")"

/-- How many captures a match has. -/
def wildcards (g : Glob) : Nat := g.text.toList.count '*'

/-- The longest run that a wildcard can take in front of a text such that `next` accepts what follows, with the
captures of `next`. -/
def longest (next : List Char → Option (List (List Char))) : List Char → Option (List (List Char))
  | [] => (next []).map ([] :: ·)
  | c :: cs =>
    match longest next cs with
    | some (run :: later) => some ((c :: run) :: later)
    | _ => (next (c :: cs)).map ([] :: ·)

/-- Captures of a text that starts at a wildcard, given the literal after each wildcard. -/
def captureTails : List (List Char) → List Char → Option (List (List Char))
  | [], key => if key.isEmpty then some [] else none
  | lit :: tails, key => longest (fun rest => (lit.isPrefixOf? rest).bind (captureTails tails)) key

/-- Captures of a whole key. -/
def captureChars (glob key : List Char) : Option (List (List Char)) :=
  let (lit, tails) := split glob
  (lit.isPrefixOf? key).bind (captureTails tails)

/-- What the wildcards stand for in a key, in order, if the whole key matches. -/
def captures? (g : Glob) (key : String) : Option (List String) :=
  (captureChars g.text.toList key.toList).map (·.map String.ofList)

/-- The characters that a pattern escapes by a backslash. -/
def isMeta (c : Char) : Bool := "()[]\x7b\x7d?*+-|^$\\.&~# \t\n\r\x0b\x0c".toList.contains c

/-- A literal inside a pattern. -/
def escaped (cs : List Char) : List Char := cs.flatMap fun c => if isMeta c then ['\\', c] else [c]

/-- The anchored pattern of a glob: escaped literals with one group for each wildcard. -/
def pattern (cs : List Char) : List Char :=
  let (lit, tails) := split cs
  '^' :: escaped lit ++ tails.flatMap (fun tail => "(.*)".toList ++ escaped tail) ++ ['$']

end Glob
end MetricExpr
