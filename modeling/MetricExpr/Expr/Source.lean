import MetricExpr.Datum
import MetricExpr.Expr.Parse
import MetricExpr.Expr.Print
/-!
# Sources

A source is what a caller hands over to be parsed; only a text can be. A node's own text is a source that reads back as
the same node.
-/
namespace MetricExpr

/-- Why a source is no node. -/
inductive SourceFault where
  | notText (kind : String)
  | malformed (e : SyntaxError)
  deriving DecidableEq, Repr

def SourceFault.message : SourceFault → String
  | notText kind => "Expected source text, got " ++ kind
  | malformed e => e.message

namespace Node

/-- The node of a source. -/
def ofSource (form : Form) : Datum → Except SourceFault Node
  | .text s => (parse form s).mapError .malformed
  | d => .error (.notText d.kind)

/-- What the node's own text reads back as. -/
def readBack? (n : Node) : Option Node := (parse .either n.text).toOption

/-- Does the node's own text read back as the node? -/
def readsBack (n : Node) : Bool := n.readBack?.any (·.same n)

/-- Does it read back as the node, with the same text? -/
def readsBackAlike (n : Node) : Bool := n.readBack?.any fun m => m.same n && m.text == n.text

end Node
end MetricExpr
