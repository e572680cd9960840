import MetricExpr.Datum
import MetricExpr.Files
import MetricExpr.Text.Case
/-!
# The journal

Messages have a level and come from a named channel. The journal `pathexpr` and the channels below it write them to the
console, in colour, and to a dated file if there is a directory for it. Setting the journal up again replaces its
outputs; a level without a name changes nothing.
-/
namespace MetricExpr

/-- A message of a channel. -/
structure Record where
  channel : String
  level : Int
  message : String
  deriving DecidableEq, Repr

namespace Record

/-- The name of a level. -/
def levelName (level : Int) : String :=
  if level = 10 then "DEBUG"
  else if level = 20 then "INFO"
  else if level = 30 then "WARNING"
  else if level = 40 then "ERROR"
  else if level = 50 then "CRITICAL"
  else if level = 0 then "NOTSET"
  else "Level " ++ toString level

/-- The terminal's escape sequence for a level's colour. -/
def colour (level : Int) : String :=
  if level = 10 then "\x1b[96m"
  else if level = 20 then "\x1b[92m"
  else if level = 30 then "\x1b[93m"
  else if level = 40 then "\x1b[91m"
  else if level = 50 then "\x1b[1m\x1b[91m"
  else "\x1b[97m"

/-- A text in a level's colour. -/
def paint (level : Int) (s : String) : String := colour level ++ s ++ "\x1b[0m"

/-- The value of a field of a line, with level name and message in colour or plain. -/
def field? (r : Record) (coloured : Bool) (name : String) : Option String :=
  let dress := fun s => if coloured then paint r.level s else s
  if name == "name" then some r.channel
  else if name == "levelno" then some (toString r.level)
  else if name == "levelname" then some (dress (levelName r.level))
  else if name == "message" then some (dress r.message)
  else none

/-- A line from a template, in which a field stands in parentheses after a per cent sign and before one letter. -/
def fill (r : Record) (coloured : Bool) : List Char → List Char
  | [] => []
  | '%' :: '(' :: rest =>
    let name := rest.takeWhile (· != ')')
    match r.field? coloured (String.ofList name) with
    | some value => value.toList ++ fill r coloured (rest.drop (name.length + 2))
    | none => '%' :: '(' :: fill r coloured rest
  | '%' :: '%' :: rest => '%' :: fill r coloured rest
  | c :: rest => c :: fill r coloured rest
termination_by cs => cs.length
decreasing_by all_goals simp_all; try omega

/-- A line from a template; an empty one stands for the message alone. -/
def line (r : Record) (coloured : Bool) (template : String) : String :=
  String.ofList (r.fill coloured (if template.isEmpty then "%(message)s" else template).toList)

/-- The line that the console shows, without the time. -/
def consoleLine (r : Record) : String := r.line true "%(levelname)s | %(message)s" ++ "\n"

/-- The line that a file keeps, without the time. -/
def fileLine (r : Record) : String := r.line false "%(levelname)s | %(name)s | %(message)s" ++ "\n"

end Record

/-- A number without its fraction; what is no number stands as it is. -/
def wholeText : Datum → String
  | .flag b => toString b.toInt
  | .real (.finite x) => toString x.truncate
  | d => d.toText

/-- A message with arguments in place of its `%s`, `%r` and `%d`; without arguments it stands as it is. -/
def interpolate : List Char → List Datum → List Char
  | [], _ => []
  | '%' :: '%' :: rest, args => '%' :: interpolate rest args
  | '%' :: c :: rest, arg :: args =>
    if c == 's' then arg.toText.toList ++ interpolate rest args
    else if c == 'd' || c == 'i' then (wholeText arg).toList ++ interpolate rest args
    else if c == 'r' then arg.inner.toList ++ interpolate rest args
    else '%' :: interpolate (c :: rest) (arg :: args)
  | c :: rest, args => c :: interpolate rest args
termination_by cs args => (cs.length, args.length)

/-- The text of a message with its arguments. -/
def messageText (message : String) (args : List Datum) : String :=
  if args.isEmpty then message else String.ofList (interpolate message.toList args)

/-- Why the journal cannot be set to a level. -/
inductive LevelFault where
  | unnamed (name : String)
  | notLevel (text : String)
  deriving DecidableEq, Repr

def LevelFault.message : LevelFault → String
  | unnamed name => "module 'logging' has no attribute '" ++ name ++ "'"
  | notLevel text => "Unknown level: " ++ Text.quote text

/-- The level of a name, in any letter case. -/
def levelOf (name : String) : Except LevelFault Nat :=
  let upper := Text.upper name
  let levels := [("NOTSET", 0), ("DEBUG", 10), ("INFO", 20), ("WARN", 30), ("WARNING", 30), ("ERROR", 40),
    ("CRITICAL", 50), ("FATAL", 50)]
  match levels.lookup upper with
  | some level => .ok level
  | none =>
    if upper == "BASIC_FORMAT" then .error (.notLevel "%(levelname)s:%(name)s:%(message)s")
    else .error (.unnamed upper)

/-- Where messages go. -/
inductive Output where
  | console
  | file (path : String)
  deriving DecidableEq, Repr

/-- The journal: its level and outputs, the handle made last and whether it has been set up, the handle that is shared,
and how many handles have been made. -/
structure Journal where
  level : Nat
  outputs : List Output
  propagate : Bool
  current : Option Nat
  ready : Bool
  shared : Option Nat
  made : Nat
  deriving DecidableEq, Inhabited

namespace Journal

/-- The name of the journal's own channel. -/
def root : String := "pathexpr"

/-- The level of channels that have none of their own. -/
def defaultLevel : Nat := 30

/-- A journal that nobody has set up: it has no level and no outputs. -/
def fresh : Journal := ⟨0, [], true, none, false, none, 0⟩

/-- The file that a directory gets. The date in its name is written as a word. -/
def filePath (directory : String) : String := normalPath (directory ++ "/" ++ root ++ "_DATE.log")

/-- The outputs for a directory, which may be empty for none. -/
def outputsFor (directory : String) : List Output :=
  .console :: if directory.isEmpty then [] else [.file (filePath directory)]

/-- Make a handle, or take the one made last. It sets the journal up unless one has done so already. -/
def acquire (j : Journal) (directory level : String) : Except LevelFault Nat × Journal :=
  let (handle, j) := match j.current with
    | some handle => (handle, j)
    | none => (j.made, { j with current := some j.made, made := j.made + 1 })
  if j.ready then (.ok handle, j)
  else
    match levelOf level with
    | .error fault => (.error fault, j)
    | .ok n => (.ok handle, { j with level := n, outputs := outputsFor directory, propagate := false, ready := true })

/-- Make the handle of an outcome the shared one. -/
def share : Except LevelFault Nat × Journal → Except LevelFault Nat × Journal
  | (.ok handle, j) => (.ok handle, { j with shared := some handle })
  | failed => failed

/-- The shared handle; it is made if there is none. -/
def get (j : Journal) (directory level : String) : Except LevelFault Nat × Journal :=
  match j.shared with
  | some handle => (.ok handle, j)
  | none => share (j.acquire directory level)

/-- Make a new shared handle and set the journal up again. -/
def setup (j : Journal) (directory level : String) : Except LevelFault Nat × Journal :=
  share ({ j with ready := false, current := none }.acquire directory level)

/-- Is the channel the journal's own or below it? -/
def owns (channel : String) : Bool := channel == root || (root ++ ".").isPrefixOf channel

/-- The level that a channel's messages must reach. -/
def effectiveLevel (j : Journal) (channel : String) : Nat :=
  if owns channel && j.level != 0 then j.level else defaultLevel

/-- What a message adds to each output. A channel without outputs shows bare messages from the default level on. -/
def lines (j : Journal) (r : Record) : List (Output × String) :=
  if r.level < j.effectiveLevel r.channel then []
  else if owns r.channel && !j.outputs.isEmpty then
    j.outputs.map fun output =>
      (output, match output with | .console => r.consoleLine | .file _ => r.fileLine)
  else if r.level < defaultLevel then []
  else [(.console, r.message ++ "\n")]

/-- The parts of a message about an outcome, between bars. -/
def resultText (command source outcome : String) (fields : List (String × Datum)) : String :=
  " | ".intercalate (["[" ++ Text.upper command ++ "]", "source=" ++ source, "outcome=" ++ outcome] ++
    fields.map fun (name, value) => name ++ "=" ++ value.toText)

/-- The level of a way to log, by its name. -/
def methodLevel? (name : String) : Option Nat :=
  [("debug", 10), ("info", 20), ("warning", 30), ("error", 40)].lookup name

end Journal
end MetricExpr
