import MetricExpr.Datum
import MetricExpr.Text.Blank
/-!
# Tie-breaks

When several groups of captures satisfy every variable, the tie-break says which one is taken.
-/
namespace MetricExpr

/-- The earliest or the latest qualifying group. -/
inductive TieBreak where
  | first | last
  deriving DecidableEq, Repr, Inhabited

namespace TieBreak

/-- The latest group is taken unless something else is asked for. -/
def default : TieBreak := last

def name : TieBreak → String
  | first => "first"
  | last => "last"

/-- The names of all tie-breaks. -/
def names : List String := [first, last].map name

/-- The tie-break of a name, in any letter case and with blanks around it. -/
def ofName? (s : String) : Option TieBreak :=
  let cs := (Text.strip s.toList).map Char.toLower
  [first, last].find? fun t => t.name.toList == cs

/-- A name that is no tie-break's. -/
structure Unknown where
  name : String
  deriving DecidableEq, Repr

def Unknown.message (u : Unknown) : String :=
  "Unknown tie-break '" ++ u.name ++ "'. Valid values: " ++ Text.quoteList names

/-- The tie-break that a datum names by its text form. -/
def ofDatum (d : Datum) : Except Unknown TieBreak := (ofName? d.toText).elim (.error ⟨d.toText⟩) .ok

/-- The member of a nonempty list that the tie-break takes. -/
def pick {α : Type} (t : TieBreak) (xs : List α) : Option α :=
  match t with
  | first => xs.head?
  | last => xs.getLast?

end TieBreak
end MetricExpr
