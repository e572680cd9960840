import MetricExpr.Command.Report
import MetricExpr.Session
/-!
# Running commands

A command reads its words, loads the settings, sets the journal up and does its task. What it prints is an answer, and
what stays is the session after it.
-/
namespace MetricExpr.Command

/-- How a command ended and what it printed. -/
structure Reply where
  exit : Exit
  output : String
  errors : String
  deriving DecidableEq, Repr

/-- How an option is written in a usage line. -/
def OptionSpec.usage (o : OptionSpec) : String :=
  let name := o.names.headD ""
  let text := if o.takesValue then name ++ " VALUE" else name
  if o.required then text else "[" ++ text ++ "]"

def OperandSpec.usage : OperandSpec → List String
  | nothing => []
  | single name => [name]
  | several name => [name ++ " ..."]
  | command _ choices => [",".intercalate choices, "..."]

/-- How a command line is written. -/
def Grammar.usage (g : Grammar) : String :=
  "usage: " ++ " ".intercalate (g.program :: (OptionSpec.help :: g.options).map OptionSpec.usage ++ g.operands.usage) ++
    "\n"

/-- The grammar of a program by its name. -/
def grammarOf (name : String) : Grammar :=
  (commandNames.map commandGrammar).find? (·.program == name) |>.getD mainGrammar

/-- The answer to words that are not taken. -/
def Refusal.reply : Refusal → Reply
  | help name => ⟨.success, (grammarOf name).usage, ""⟩
  | wrong name message => ⟨.refused, "", (grammarOf name).usage ++ name ++ ": error: " ++ message ++ "\n"⟩

/-- The line that is printed when there is nothing to do. -/
def usageLine : String :=
  "[yellow]Usage: " ++ program ++ " \x7b" ++ "|".intercalate commandNames ++ "\x7d --help[/]"

/-- The report of a request that may be empty. -/
def Request.report (r : Request) (files : Files) (settings : Settings) : Except Break Report :=
  match r.task with
  | none => .ok ⟨.failure, Display.paragraph usageLine, "", []⟩
  | some task => task.report files settings

/-- Do what is asked for under these settings. -/
def runWith (settings : Settings) (r : Request) (s : Session) : Except Break Reply × Session :=
  let level := (r.severity.getD settings.severity).name
  let (_, s) := s.withJournal (s.journal.setup settings.logDirectory level)
  match r.report s.files settings with
  | .error fault => (.error fault, s)
  | .ok report =>
    let (shown, s) := s.recordAll report.records
    (.ok ⟨report.exit, report.output, shown ++ report.errors⟩, s)

/-- Do what is asked for. Settings that cannot be loaded are reported. -/
def runRequest (r : Request) (s : Session) : Except Break Reply × Session :=
  match s.settings.get .own s.files SettingsStore.defaultFile with
  | (.ok (_, settings), store) => runWith settings r { s with settings := store }
  | (.error fault, store) =>
    let line := Display.paragraph ("[bold red]Configuration error:[/] " ++ Markup.escape fault.message)
    (.ok ⟨.failure, line, ""⟩, { s with settings := store })

/-- Run the words of a command line. -/
def run (words : List String) (s : Session) : Except Break Reply × Session :=
  match Request.ofWords words with
  | .error refusal => (.ok refusal.reply, s)
  | .ok r => runRequest r s

end MetricExpr.Command
