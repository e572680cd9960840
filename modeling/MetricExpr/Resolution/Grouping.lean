import MetricExpr.Glob
import MetricExpr.OrderedMap
/-!
# Matches grouped by captures

Every key is tried against every target. The matches with the same captures form a group; groups keep the order in which
their captures first appeared, and a target that matches twice in a group keeps its last match.
-/
namespace MetricExpr

/-- A key that a target matches, with what the target's wildcards stand for. -/
structure Match (τ : Type) where
  target : τ
  key : String
  captures : List String
  deriving DecidableEq, Repr

/-- For each list of captures, the match of each target. -/
abbrev Groups (τ : Type) := OrderedMap (List String) (OrderedMap τ (Match τ))

variable {τ : Type}

/-- All matches: keys in order, and targets in order for each key. -/
def findMatches (targets : List (τ × Glob)) (keys : List String) : List (Match τ) :=
  keys.flatMap fun key => targets.filterMap fun (target, glob) => (glob.captures? key).map (⟨target, key, ·⟩)

/-- Add a match to the group of its captures. -/
def Groups.add [BEq τ] (groups : Groups τ) (m : Match τ) : Groups τ :=
  groups.alter m.captures fun group => (group.getD .empty).insert m.target m

/-- The groups of a list of matches. -/
def groupByCaptures [BEq τ] (found : List (Match τ)) : Groups τ := found.foldl Groups.add .empty

/-- The captures of the groups with exactly this many targets. -/
def qualifying (groups : Groups τ) (count : Nat) : List (List String) :=
  (groups.entries.filter fun group => group.2.size == count).map (·.1)

end MetricExpr
