import MetricExpr.Expr.Eval
import MetricExpr.Resolution.Grouping
import MetricExpr.Resolution.TieBreak
/-!
# Resolution

Variables are resolved together: each of them gets a key that its glob matches, and all of them share one list of
captures. Resolution fails if some variable matches no key at all, or if no captures are shared by all of them.
-/
namespace MetricExpr

/-- The outcome of resolving variables against keys. -/
inductive Resolution where
  | ok (captures : List String) (keys : List (Variable × String))
  | unmatched (globs : List String)
  | inconsistent
  deriving DecidableEq

namespace Resolution

def isOk : Resolution → Bool
  | ok .. => true
  | _ => false

/-- The name of the outcome. -/
def reason : Resolution → String
  | ok .. => "OK"
  | unmatched _ => "UNMATCHED"
  | inconsistent => "INCONSISTENT"

/-- The number of the outcome. -/
def code : Resolution → Nat
  | ok .. => 0
  | unmatched _ => 1
  | inconsistent => 2

end Resolution

/-- What a scan of the keys shows: the distinct variables, all matches, and the groups of the matches. -/
structure Survey where
  vars : List Variable
  found : List (Match Variable)
  groups : Groups Variable

namespace Survey

/-- Scan the keys for variables that may repeat. -/
def of (vs : List Variable) (keys : List String) : Survey :=
  let wanted := distinct vs
  let found := findMatches (wanted.map fun v => (v, v.glob)) keys
  ⟨wanted, found, groupByCaptures found⟩

/-- The globs of the variables that match no key. -/
def unmatched (s : Survey) : List String :=
  (s.vars.filter fun v => !s.found.any (·.target == v)).map (·.text)

/-- The captures that every variable has a match for. -/
def candidates (s : Survey) : List (List String) := qualifying s.groups s.vars.length

/-- The key of each variable in the group of these captures. -/
def keysOf (s : Survey) (captures : List String) : List (Variable × String) :=
  let group := (s.groups.get? captures).getD .empty
  s.vars.filterMap fun v => (group.get? v).map fun m => (v, m.key)

/-- The outcome of the scan. -/
def resolution (s : Survey) (policy : TieBreak) : Resolution :=
  if s.vars.isEmpty then .ok [] []
  else if !s.unmatched.isEmpty then .unmatched s.unmatched
  else
    match policy.pick s.candidates with
    | none => .inconsistent
    | some captures => .ok captures (s.keysOf captures)

/-- Captures as a message shows them: in parentheses, with a comma behind a single one. -/
def captureText (captures : List String) : String :=
  match captures with
  | [one] => "(" ++ Text.quote one ++ ",)"
  | _ => "(" ++ ", ".intercalate (captures.map Text.quote) ++ ")"

/-- What there is to say about the outcome beyond the outcome itself. -/
def trace (s : Survey) (policy : TieBreak) : Option String :=
  match s.resolution policy with
  | .unmatched globs => some ("Unmatched variables: " ++ ", ".intercalate globs)
  | .inconsistent =>
    some ("No shared wildcard values across " ++ toString s.vars.length ++ " variables (" ++
      toString s.groups.size ++ " capture groups)")
  | .ok captures _ =>
    if 1 < s.candidates.length then
      some (toString s.candidates.length ++ " capture groups qualify; " ++ policy.name ++ " policy selects " ++
        captureText captures)
    else none

end Survey

/-- Resolve variables against keys. -/
def Resolution.of (vs : List Variable) (keys : List String) (policy : TieBreak) : Resolution :=
  (Survey.of vs keys).resolution policy

/-- Resolve variables under a tie-break that is still to be read; without variables it is not looked at. -/
def Resolution.choosing (vs : List Variable) (keys : List String) (choice : Option Datum) :
    Except TieBreak.Unknown Resolution :=
  if vs.isEmpty then .ok (.ok [] [])
  else
    match choice with
    | none => .ok (.of vs keys .default)
    | some d => (TieBreak.ofDatum d).map (.of vs keys)

namespace Resolution

/-- The value of the key of each variable, as doubles, in order; the first key whose value is none stops. -/
def bindEach (table : OrderedMap String Datum) :
    List (Variable × String) → Except ConversionFault (List (Variable × Binary64))
  | [] => .ok []
  | (v, key) :: rest => do
    let x ← ((table.get? key).getD .null).toBinary64
    return (v, x) :: (← bindEach table rest)

/-- The bindings of a resolution, if it is ok. -/
def bindings (table : OrderedMap String Datum) : Resolution → Except ConversionFault (Option (Bindings Binary64))
  | ok _ keys => (bindEach table keys).map fun entries => some ⟨entries⟩
  | _ => .ok none

/-- The bindings of a resolution against keys with numbers, if it is ok. -/
def numbers (table : OrderedMap String Binary64) : Resolution → Option (Bindings Binary64)
  | ok _ keys => some ⟨keys.map fun (v, key) => (v, (table.get? key).getD .nan)⟩
  | _ => none

end Resolution
end MetricExpr
