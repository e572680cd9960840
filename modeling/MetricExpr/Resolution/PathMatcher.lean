import MetricExpr.Resolution.Grouping
import MetricExpr.Text.Quoted
/-!
# Path matchers

A path matcher holds some globs and finds the paths that match all of them with the same captures.
-/
namespace MetricExpr

/-- Distinct globs, at least one. -/
structure PathMatcher where
  globs : List Glob
  deriving DecidableEq, Repr

namespace PathMatcher

/-- The message when a matcher is asked for without globs. -/
def noGlobs : String := "PathMatcher: at least one glob is required"

/-- The matcher of glob texts, bare or quoted; texts that agree without their quotes count once. -/
def ofTexts? (texts : List String) : Option PathMatcher :=
  if texts.isEmpty then none else some ⟨distinct (texts.map Glob.ofText)⟩

def targets (m : PathMatcher) : List (Glob × Glob) := m.globs.map fun g => (g, g)

/-- The matches of one path. -/
def matchOne (m : PathMatcher) (path : String) : List (Match Glob) := findMatches m.targets [path]

/-- The matches of every group in which all globs have one: groups by first appearance, globs as declared. -/
def matchAll (m : PathMatcher) (paths : List String) : List (Match Glob) :=
  let groups := groupByCaptures (findMatches m.targets paths)
  (qualifying groups m.globs.length).flatMap fun captures =>
    m.globs.filterMap ((groups.get? captures).getD .empty).get?

/-- The globs in the order of declaration, quoted. -/
def text (m : PathMatcher) : String :=
  "PathMatcher(" ++ ", ".intercalate (m.globs.map fun g => Text.quote g.text) ++ ")"

end PathMatcher
end MetricExpr
