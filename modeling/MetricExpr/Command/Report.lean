import MetricExpr.Command.Request
import MetricExpr.Display.Json
import MetricExpr.Display.Message
import MetricExpr.Display.Outline
import MetricExpr.Display.Table
import MetricExpr.Display.Value
import MetricExpr.Frame.Samples
import MetricExpr.Journal
import MetricExpr.Resolution.PathMatcher
import MetricExpr.SymbolTable.Load
/-!
# Reports

Every task ends in a report: how it ended, what it prints, and what it tells the journal. Reports are functions of the
files, the settings and the request. The format of the output changes nothing but the output.
-/
namespace MetricExpr.Command

/-- How a command ends. -/
inductive Exit where
  | success
  /-- The input cannot be used. -/
  | failure
  /-- There is no result. -/
  | undefined
  /-- The words of the command line are not taken. -/
  | refused
  deriving DecidableEq, Repr

/-- The number that the program returns. -/
def Exit.code : Exit → Nat
  | success => 0
  | failure => 1
  | undefined => 2
  | refused => 2

/-- The outcome of a task. -/
structure Report where
  exit : Exit
  output : String
  errors : String
  records : List Record

/-- What breaks a command off without a report. -/
inductive Break where
  | load (source : String) (fault : LoadFault)
  /-- Text with markup that closes what is not open. -/
  | markup (message : String)
  deriving DecidableEq, Repr

def Break.message : Break → String
  | load source fault => fault.message source
  | markup message => message

namespace Report

/-- Nothing but an error. -/
def failed (errors : String) : Report := ⟨.failure, "", errors, []⟩

/-- The report with messages in front of its own. -/
def after (records : List Record) (r : Report) : Report := { r with records := records ++ r.records }

end Report

/-! ## Messages -/

/-- The channel of a part of the program. -/
def channel (part : String) : String := Journal.root ++ ".expressions." ++ part

/-- A message for those who look for faults. -/
def trace (part message : String) : Record := ⟨channel part, 10, message⟩

/-- The message about an outcome. -/
def result (command source outcome : String) (fields : List (String × Datum)) : Record :=
  ⟨Journal.root, 20, Journal.resultText command source outcome fields⟩

/-- The rule of the grammar that a form starts with. -/
def ruleName : Form → String
  | .either => "parse_any"
  | .expression => "parse_expression"
  | .predicate => "parse_predicate"

def parseTrace (form : Form) (e : SyntaxError) : Record :=
  trace "parser" ("Parse failed (" ++ ruleName form ++ "): " ++ e.reason ++ " at " ++ toString e.position)

def loadTrace (path : String) (table : SymbolTable) : Record :=
  trace "symbols" ("Loaded " ++ toString table.size ++ " symbols from " ++ SymbolTable.sourceName path)

def resolutionTraces (vs : List Variable) (keys : List String) (policy : TieBreak) : List Record :=
  ((Survey.of vs keys).trace policy).toList.map (trace "matcher")

/-! ## Parts of output -/

/-- The text of a JSON value on lines of its own. -/
def jsonOutput (x : JsonValue) : String := x.write ++ "\n"

def optionJson : Option String → JsonValue
  | some s => .text s
  | none => .null

/-- The word for how a value came out. -/
def statusOf {α : Type} (value : Option α) : String := if value.isSome then "ok" else Display.undefined

def exitOf {α : Type} (value : Option α) : Exit := if value.isSome then .success else .undefined

/-! ## parse -/

def syntaxErrorJson (e : SyntaxError) : JsonValue :=
  .object [("status", .text "error"), ("message", .text e.reason), ("position", .integer e.position),
    ("expected", optionJson e.expected), ("found", optionJson e.found)]

def nodeJson (n : Node) : JsonValue :=
  .object [("status", .text "ok"), ("text", .text n.text), ("tree", n.toJson)]

def parseReport (r : ParseRequest) : Report :=
  match Node.parse r.form r.source, r.format with
  | .error e, .json => ⟨.failure, jsonOutput (syntaxErrorJson e), "", [parseTrace r.form e]⟩
  | .error e, .text => ⟨.failure, "", Display.syntaxError e, [parseTrace r.form e]⟩
  | .ok n, .json => ⟨.success, jsonOutput (nodeJson n), "", []⟩
  | .ok n, .text =>
    ⟨.success, Display.panel "Parsed" (Markup.escape n.text) ++ (Display.nodeOutline n).print, "", []⟩

/-- Go on with the node of a source, or report its syntax error. -/
def withNode (form : Form) (source : String) (next : Node → Except Break Report) : Except Break Report :=
  match Node.parse form source with
  | .error e => .ok ⟨.failure, "", Display.syntaxError e, [parseTrace form e]⟩
  | .ok n => next n

/-- Go on with the symbol table of a file, or report why there is none. -/
def withTable (files : Files) (path : String) (next : SymbolTable → Report) : Except Break Report :=
  let source := SymbolTable.sourceName path
  match SymbolTable.load files path with
  | .ok table => .ok ((next table).after [loadTrace path table])
  | .error fault =>
    if fault.isReported then .ok (.failed (Display.errorLine (fault.message source)))
    else .error (.load source fault)

/-! ## eval -/

/-- A table of variables with their keys and values. -/
def bindingsTable (places : Nat) (bindings : Bindings Binary64) (keys : List (Variable × String)) : Display.Table :=
  ⟨"Bindings", false, keys.length,
    [⟨"Glob", .left, keys.map fun (v, _) => Markup.escape v.text⟩,
      ⟨"Key", .left, keys.map fun (_, key) => Markup.escape key⟩,
      ⟨"Value", .right, keys.map fun (v, _) => Display.outcome places ((bindings.get? v).map .number)⟩]⟩

/-- What is printed about a value and how its variables were resolved. -/
def evalText (places : Nat) (resolution : Resolution) (bindings : Option (Bindings Binary64))
    (value : Option (Outcome Binary64)) : String :=
  match resolution, value with
  | .ok captures keys, some _ =>
    let table := if keys.isEmpty then "" else (bindingsTable places (bindings.getD .empty) keys).print
    let wildcards :=
      if keys.isEmpty || captures.isEmpty then ""
      else Display.paragraph ("[dim]wildcards: " ++ Markup.escape (", ".intercalate captures) ++ "[/]")
    Display.paragraph ("[bold green]" ++ Display.outcome places value ++ "[/]") ++ table ++ wildcards
  | _, _ =>
    let globs := match resolution with
      | .unmatched globs => globs
      | _ => []
    Display.paragraph ("[bold yellow]" ++ Display.undefined ++ "[/] [dim](" ++ Text.lower resolution.reason ++ ")[/]") ++
      String.join (globs.map fun glob =>
        Display.paragraph ("  [yellow]- no key matches \"" ++ Markup.escape glob ++ "\"[/]"))

def evalJson (resolution : Resolution) (value : Option (Outcome Binary64)) : JsonValue :=
  .object [("status", .text (statusOf value)), ("value", .ofOutcome value), ("resolution", resolution.toJson)]

/-- The report about a node's value against a symbol table. -/
def evalNode (settings : Settings) (r : EvalRequest) (n : Node) (table : SymbolTable) : Report :=
  let policy := r.tieBreak.getD settings.tieBreak
  let places := settings.precision.val
  let resolution := Resolution.of n.vars table.keys policy
  let bindings := resolution.numbers table
  let value := n.evalWith .binary64 bindings
  let output := match r.format with
    | .json => jsonOutput (evalJson resolution value)
    | .text => evalText places resolution bindings value
  ⟨exitOf value, output, "",
    resolutionTraces n.vars table.keys policy ++
      [result "eval" n.text (Display.outcome places value)
        [("reason", .text resolution.reason), ("symbols", .integer table.size)]]⟩

def evalReport (files : Files) (settings : Settings) (r : EvalRequest) : Except Break Report :=
  withNode r.form r.source fun n => withTable files r.table fun table => evalNode settings r n table

/-! ## match -/

/-- The number at a key of the table. -/
def numberAt (table : SymbolTable) (key : String) : Binary64 := (table.get? key).getD .nan

def matchJson (table : SymbolTable) (m : Match Glob) : JsonValue :=
  .object [("glob", .text m.target.text), ("key", .text m.key), ("captures", .texts m.captures),
    ("value", .ofBinary64 (numberAt table m.key))]

/-- A table of matches. -/
def matchTable (places count : Nat) (table : SymbolTable) (found : List (Match Glob)) : Display.Table :=
  ⟨"Matches for " ++ toString count ++ " glob(s)", true, found.length,
    [⟨"Wildcards", .left, found.map fun m => Markup.escape (", ".intercalate m.captures)⟩,
      ⟨"Glob", .left, found.map fun m => Markup.escape m.target.text⟩,
      ⟨"Key", .left, found.map fun m => Markup.escape m.key⟩,
      ⟨"Value", .right, found.map fun m => Display.number places (numberAt table m.key)⟩]⟩

/-- The report about the keys of a symbol table that globs match together. -/
def matchKeys (settings : Settings) (r : MatchRequest) (table : SymbolTable) : Report :=
  match PathMatcher.ofTexts? r.globs with
  | none => .failed (Display.errorLine PathMatcher.noGlobs)
  | some m =>
    let found := m.matchAll table.keys
    let globs := m.globs.map (·.text)
    let output := match r.format with
      | .json =>
        jsonOutput (.object [("globs", .texts globs), ("matches", .array (found.map (matchJson table)))])
      | .text =>
        if found.isEmpty then Display.paragraph "[yellow]No consistent matches[/]"
        else (matchTable settings.precision.val globs.length table found).print
    ⟨if found.isEmpty then .undefined else .success, output, "",
      [result "match" (" ".intercalate globs) (toString found.length) []]⟩

def matchReport (files : Files) (settings : Settings) (r : MatchRequest) : Except Break Report :=
  withTable files r.table (matchKeys settings r)

/-! ## frame -/

/-- The labels of rows with the values there; a label that comes again keeps its place and takes the new value. -/
def seriesJson (rows : List Datum) (series : Series) : JsonValue :=
  .object (OrderedMap.ofList
    (List.zipWith (fun row value => (row.toText, JsonValue.ofOutcome (some value))) rows series.values)).entries

def frameJson (rows : List Datum) (series : Option Series) : JsonValue :=
  .object [("status", .text (statusOf series)), ("values", series.elim .null (seriesJson rows))]

/-- A table of rows with the values there. -/
def seriesTable (places : Nat) (n : Node) (samples : Samples) (series : Series) : Display.Table :=
  ⟨Markup.escape n.text, true, series.size,
    [⟨samples.indexName.getD "row", .left, samples.frame.rows.map fun row => Markup.escape row.toText⟩,
      ⟨"Value", .right, series.values.map fun value => Display.outcome places (some value)⟩]⟩

def frameText (places : Nat) (n : Node) (samples : Samples) : Option Series → String
  | none =>
    Display.paragraph ("[bold yellow]" ++ Display.undefined ++ "[/] [dim](columns do not resolve)[/]")
  | some series => (seriesTable places n samples series).print

/-- The first name in a report that is no markup. -/
def markupFault? (r : FrameRequest) (samples : Samples) (series : Option Series) : Option String :=
  match r.format, series with
  | .text, some _ => samples.indexName.bind Markup.fault?
  | _, _ => none

/-- The report about a node's values over samples. -/
def frameNode (settings : Settings) (r : FrameRequest) (n : Node) (samples : Samples) : Except Break Report :=
  let policy := r.tieBreak.getD settings.tieBreak
  let resolution := Resolution.of n.vars samples.frame.labels policy
  let unresolved :=
    if resolution.isOk then [] else [trace "frames" ("Frame resolution failed: " ++ resolution.reason)]
  let traces := resolutionTraces n.vars samples.frame.labels policy ++ unresolved
  match samples.frame.evalResolved n resolution with
  | .error fault => .ok ((Report.failed (Display.errorLine fault.message)).after traces)
  | .ok series =>
    match markupFault? r samples series with
    | some message => .error (.markup message)
    | none =>
      let outcome := series.elim Display.undefined fun s => toString s.size ++ " rows"
      let output := match r.format with
        | .json => jsonOutput (frameJson samples.frame.rows series)
        | .text => frameText settings.precision.val n samples series
      .ok ⟨exitOf series, output, "",
        traces ++ [result "frame" n.text outcome [("columns", .integer samples.frame.columns.length)]]⟩

def frameReport (files : Files) (settings : Settings) (r : FrameRequest) : Except Break Report :=
  withNode r.form r.source fun n =>
    match Samples.load files r.sheet r.index with
    | .error fault =>
      .ok (.failed (Display.unbroken ("[bold red]ERROR:[/] Cannot read '" ++ Markup.escape r.sheet ++ "': " ++
        Markup.escape fault.message)))
    | .ok samples => frameNode settings r n samples

/-! ## config -/

def configReport (settings : Settings) : Except Break Report :=
  match settings.summary.findSome? Markup.fault? with
  | some message => .error (.markup message)
  | none => .ok ⟨.success, String.join (settings.summary.map Display.paragraph), "", []⟩

/-! ## Tasks -/

/-- The report of a task. -/
def Task.report (files : Files) (settings : Settings) : Task → Except Break Report
  | .parse r => .ok (parseReport r)
  | .eval r => evalReport files settings r
  | .matching r => matchReport files settings r
  | .frame r => frameReport files settings r
  | .config => configReport settings

end MetricExpr.Command
