import MetricExpr.Decimal.Fixed
import MetricExpr.Datum
import MetricExpr.Expr.Eval
/-!
# Displayed values

A number is shown in fixed-point form with at most `places` digits after the point, without zeros at its end and without
the sign of a zero. Infinities and NaN are shown by name.
-/
namespace MetricExpr.Display

/-- The word for a missing value. -/
def undefined : String := "undefined"

/-- The places that numbers are shown with unless something else is asked for. -/
def defaultPlaces : Nat := 6

/-- The text without the characters of a class at its end. -/
def dropEnd (p : Char → Bool) (cs : List Char) : List Char := (cs.reverse.dropWhile p).reverse

/-- Fixed-point text without zeros at the end of a fraction. -/
def trimmed (cs : List Char) : List Char :=
  if cs.contains '.' then dropEnd (· == '.') (dropEnd (· == '0') cs) else cs

/-- A number as it is shown. -/
def number (places : Nat) : Binary64 → String
  | .finite x =>
    let cs := trimmed (x.fixed places)
    if cs == ['-', '0'] || cs.isEmpty then "0" else String.ofList cs
  | x => x.text

/-- A truth value as it is shown. -/
def truth (b : Bool) : String := if b then "true" else "false"

/-- An outcome of an evaluation as it is shown. -/
def outcome (places : Nat) : Option (Outcome Binary64) → String
  | none => undefined
  | some (.number x) => number places x
  | some (.truth b) => truth b

/-- A datum as it is shown: nothing and flags by their words, everything else as a double. -/
def datum (places : Nat) : Datum → Except ConversionFault String
  | .null => .ok undefined
  | .flag b => .ok (truth b)
  | d => d.toBinary64.map (number places)

end MetricExpr.Display
