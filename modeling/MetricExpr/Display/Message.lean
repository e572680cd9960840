import MetricExpr.Display.Lines
import MetricExpr.Expr.SyntaxError
/-!
# Messages

Errors are shown on lines of their own that are not broken. A syntax error shows the source and points at the place.
-/
namespace MetricExpr.Display

/-- The line of an error. -/
def errorLine (message : String) : String := unbroken ("[bold red]ERROR:[/] " ++ Markup.escape message)

/-- The lines of a syntax error. -/
def syntaxError (e : SyntaxError) : String :=
  let reason := unbroken ("[bold red]Syntax error:[/] " ++ Markup.escape e.reason)
  let place :=
    if e.position < 0 then ""
    else
      verbatim (Text.drawn ("  " ++ e.text).toList) ++
        unbroken ("  " ++ String.ofList (blanks e.position.toNat) ++ "[red]^[/]")
  let expected := match e.expected with
    | some what => if what.isEmpty then "" else unbroken ("  [dim]expected " ++ Markup.escape what ++ "[/]")
    | none => ""
  reason ++ place ++ expected

end MetricExpr.Display
