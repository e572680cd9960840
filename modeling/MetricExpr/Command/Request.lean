import MetricExpr.Command.Arguments
import MetricExpr.Expr.Parse
import MetricExpr.Resolution.TieBreak
import MetricExpr.Settings
/-!
# Requests

A request is what a command line asks for: one of five commands with its options, and how much the journal tells.
-/
namespace MetricExpr.Command

/-- How results are written. -/
inductive OutputFormat where
  | text | json
  deriving DecidableEq, Repr

/-- Show how a source is read. -/
structure ParseRequest where
  source : String
  form : Form
  format : OutputFormat
  deriving DecidableEq, Repr

/-- Evaluate a source against the symbol table of a file. -/
structure EvalRequest where
  source : String
  form : Form
  table : String
  tieBreak : Option TieBreak
  format : OutputFormat
  deriving DecidableEq, Repr

/-- List the keys of a symbol table that globs match together. -/
structure MatchRequest where
  globs : List String
  table : String
  format : OutputFormat
  deriving DecidableEq, Repr

/-- Evaluate a source for every row of a sheet. -/
structure FrameRequest where
  source : String
  form : Form
  sheet : String
  /-- The column that labels the rows. -/
  index : Option String
  tieBreak : Option TieBreak
  format : OutputFormat
  deriving DecidableEq, Repr

/-- What is to be done. -/
inductive Task where
  | parse (r : ParseRequest)
  | eval (r : EvalRequest)
  | matching (r : MatchRequest)
  | frame (r : FrameRequest)
  | config
  deriving DecidableEq, Repr

/-- A task, if there is one, and the least severity of messages if it is not left to the settings. -/
structure Request where
  severity : Option Severity
  task : Option Task
  deriving DecidableEq, Repr

/-! ## Options -/

def flag (names : List String) (group : Option String) : OptionSpec := ⟨names, false, [], false, group⟩

def quietOption : OptionSpec := flag ["-q", "--quiet"] (some "verbosity")
def verboseOption : OptionSpec := flag ["-v", "--verbose"] (some "verbosity")
def debugOption : OptionSpec := flag ["--debug"] (some "verbosity")
def predicateOption : OptionSpec := flag ["--predicate"] (some "form")
def expressionOption : OptionSpec := flag ["--expression"] (some "form")
def jsonOption : OptionSpec := flag ["--json"] none
def tableOption : OptionSpec := ⟨["--table"], true, [], true, none⟩
def sheetOption : OptionSpec := ⟨["--csv"], true, [], true, none⟩
def indexOption : OptionSpec := ⟨["--index-col"], true, [], false, none⟩
def tieBreakOption : OptionSpec := ⟨["--tie-break"], true, TieBreak.names, false, none⟩

/-! ## Grammars -/

/-- The name of the program. -/
def program : String := "pathexpr"

def commandNames : List String := ["parse", "eval", "match", "frame", "config"]

/-- The words of the whole command line. -/
def mainGrammar : Grammar :=
  ⟨program, .command "command" commandNames, [quietOption, verboseOption, debugOption]⟩

/-- The words of a command. -/
def commandGrammar (name : String) : Grammar :=
  let (operands, options) : OperandSpec × List OptionSpec := match name with
    | "parse" => (.single "source", [predicateOption, expressionOption, jsonOption])
    | "eval" => (.single "source", [tableOption, predicateOption, expressionOption, tieBreakOption, jsonOption])
    | "match" => (.several "globs", [tableOption, jsonOption])
    | "frame" =>
      (.single "source", [sheetOption, indexOption, predicateOption, expressionOption, tieBreakOption, jsonOption])
    | _ => (.nothing, [])
  ⟨program ++ " " ++ name, operands, options⟩

/-! ## Reading -/

namespace Arguments

def format (a : Arguments) : OutputFormat := if a.has jsonOption then .json else .text

def form (a : Arguments) : Form :=
  if a.has predicateOption then .predicate else if a.has expressionOption then .expression else .either

def tieBreak (a : Arguments) : Option TieBreak :=
  (a.value? tieBreakOption).bind fun name => (TieBreak.ofDatum (.text name)).toOption

def severity (a : Arguments) : Option Severity :=
  if a.has debugOption then some .debug
  else if a.has verboseOption then some .info
  else if a.has quietOption then some .error
  else none

/-- The operand of a command that has one. -/
def source (a : Arguments) : String := a.found.headD ""

/-- The task of a command with its arguments. -/
def task (a : Arguments) (name : String) : Task :=
  let value := fun o => (a.value? o).getD ""
  match name with
  | "parse" => .parse ⟨a.source, a.form, a.format⟩
  | "eval" => .eval ⟨a.source, a.form, value tableOption, a.tieBreak, a.format⟩
  | "match" => .matching ⟨a.found, value tableOption, a.format⟩
  | "frame" => .frame ⟨a.source, a.form, value sheetOption, a.value? indexOption, a.tieBreak, a.format⟩
  | _ => .config

end Arguments

/-- Refuse words that nothing takes. -/
def refuseExtras (extras : List String) : Except Refusal Unit :=
  if extras.isEmpty then .ok () else mainGrammar.refuse ("unrecognized arguments: " ++ " ".intercalate extras)

/-- The request of a command line. -/
def Request.ofWords (words : List String) : Except Refusal Request := do
  let a ← mainGrammar.sort words
  match a.found with
  | [] => do
    refuseExtras a.extras
    return ⟨a.severity, none⟩
  | name :: rest => do
    let b ← (commandGrammar name).sort rest
    refuseExtras (a.extras ++ b.extras)
    return ⟨a.severity, some (b.task name)⟩

end MetricExpr.Command
