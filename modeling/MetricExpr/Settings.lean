import MetricExpr.Environment
import MetricExpr.Files
import MetricExpr.Resolution.TieBreak
import MetricExpr.Text.Case
import MetricExpr.Text.Encoding
/-!
# Settings

Settings come from environment variables. Loading them first sets the variables of the file `.env` and then those of a
file of the caller's choice in the environment, where they stay. How such a file is read is a parameter of loading.
Settings are loaded once and kept until they are dropped or loaded again; a load that fails keeps nothing.
-/
namespace MetricExpr

/-- The levels that messages can be limited to. -/
inductive Severity where
  | debug | info | warning | error | critical
  deriving DecidableEq, Repr

namespace Severity

def all : List Severity := [debug, info, warning, error, critical]

def name : Severity → String
  | debug => "DEBUG"
  | info => "INFO"
  | warning => "WARNING"
  | error => "ERROR"
  | critical => "CRITICAL"

/-- The severity of a level's whole name. -/
def ofName? (s : String) : Option Severity := all.find? (·.name == s)

end Severity

/-- The settings of a run. -/
structure Settings where
  severity : Severity
  /-- The directory of log files; empty for none. -/
  logDirectory : String
  tieBreak : TieBreak
  /-- Digits shown after the point. -/
  precision : Fin 18
  deriving DecidableEq, Repr

/-- Why settings cannot be loaded. -/
inductive SettingsFault where
  | severity (given : String)
  | tieBreak (given : String)
  | notInteger (given : String)
  | precision (given : Int)
  /-- The system refuses the path of a file of variables. -/
  | access (path : String) (fault : AccessFault)
  | bytes (fault : Text.DecodeFault)
  | unset (fault : VariableFault)
  deriving DecidableEq, Repr

def SettingsFault.message : SettingsFault → String
  | severity given =>
    "PATHEXPR_LOG_LEVEL must be one of " ++ Text.quoteList (Severity.all.map (·.name)) ++ ", got '" ++ given ++ "'"
  | tieBreak given =>
    "PATHEXPR_TIE_BREAK must be one of " ++ Text.quoteList TieBreak.names ++ ", got '" ++ given ++ "'"
  | notInteger given => "PATHEXPR_PRECISION must be an integer, got '" ++ given ++ "'"
  | precision given => "PATHEXPR_PRECISION must be between 0 and 17, got " ++ toString given
  | access path fault => fault.message (normalPath path)
  | bytes fault => fault.message
  | unset fault => fault.message

/-- What reading the bytes of a file of variables does: why it breaks off, if it does, and what becomes of the
environment. -/
abbrev VariableReader := Environment → List UInt8 → Option SettingsFault × Environment

/-- Variables as they are read here. -/
def VariableReader.own : VariableReader := fun env bytes =>
  match Text.decode bytes with
  | .ok text => ((env.load text).1.map .unset, (env.load text).2)
  | .error fault => (some (.bytes fault), env)

/-- Set the variables of the file at a path, if it is there. -/
def Environment.loadFile (env : Environment) (reader : VariableReader) (files : Files) (path : String) :
    Option SettingsFault × Environment :=
  match files.look path with
  | .refused fault => (some (.access path fault), env)
  | .found (.ok bytes) => reader env bytes
  | .missing | .found (.error _) => (none, env)

namespace Settings

/-- The severity of a level's name, in any letter case and with blanks around it. -/
def readSeverity (given : String) : Except SettingsFault Severity :=
  let name := String.ofList (Text.strip (Text.upper given).toList)
  (Severity.ofName? name).elim (.error (.severity name)) .ok

def readTieBreak (given : Datum) : Except SettingsFault TieBreak :=
  match TieBreak.ofDatum given with
  | .ok t => .ok t
  | .error unknown => .error (.tieBreak unknown.name)

/-- A precision from an integer. -/
def checkPrecision (n : Int) : Except SettingsFault (Fin 18) :=
  if h : 0 ≤ n ∧ n < 18 then .ok ⟨n.toNat, by omega⟩ else .error (.precision n)

def readPrecision (given : String) : Except SettingsFault (Fin 18) :=
  (readInt? given).elim (.error (.notInteger given)) checkPrecision

/-- The settings that an environment gives; the first one that is wrong stops. -/
def ofEnvironment (env : Environment) : Except SettingsFault Settings := do
  let severity ← readSeverity ((env.get? "PATHEXPR_LOG_LEVEL").getD "WARNING")
  let logDirectory := (env.get? "PATHEXPR_LOG_DIR").getD ""
  let tieBreak ← readTieBreak (.text ((env.get? "PATHEXPR_TIE_BREAK").getD TieBreak.default.name))
  let precision ← readPrecision ((env.get? "PATHEXPR_PRECISION").getD "6")
  return { severity, logDirectory, tieBreak, precision }

/-- The settings, one line for each. -/
def summary (s : Settings) : List String :=
  ["log level: " ++ s.severity.name,
    "log dir: " ++ (if s.logDirectory.isEmpty then "(console only)" else s.logDirectory),
    "tie-break: " ++ s.tieBreak.name,
    "precision: " ++ toString s.precision.val]

end Settings

/-- The settings that are kept between loads. Every attempt to make new ones has a number of its own; `slot` holds the
attempt in force, with its settings once a load has succeeded. -/
structure SettingsStore where
  environment : Environment
  slot : Option (Nat × Option Settings)
  attempts : Nat
  deriving Inhabited

namespace SettingsStore

def empty : SettingsStore := ⟨.empty, none, 0⟩

/-- The file that is always loaded first. -/
def defaultFile : String := ".env"

/-- Forget the settings. -/
def reset (s : SettingsStore) : SettingsStore := { s with slot := none }

def assign (s : SettingsStore) (name : String) (value : Option String) : SettingsStore :=
  { s with environment := s.environment.assign name value }

section Loading

variable (reader : VariableReader) (s : SettingsStore) (files : Files) (file : String)

/-- What loading both files does: why it breaks off, if it does, and what becomes of the environment. -/
def loaded : Option SettingsFault × Environment :=
  match s.environment.loadFile reader files defaultFile with
  | (none, env) => env.loadFile reader files file
  | (some fault, env) => (some fault, env)

/-- The settings that the environment and both files give. -/
def read : Except SettingsFault Settings :=
  (s.loaded reader files file).1.elim (Settings.ofEnvironment (s.loaded reader files file).2) .error

/-- Load settings for the attempt with this number. -/
def fill (attempt : Nat) : Except SettingsFault (Nat × Settings) × SettingsStore :=
  let environment := (s.loaded reader files file).2
  match s.read reader files file with
  | .ok settings => (.ok (attempt, settings), ⟨environment, some (attempt, some settings), s.attempts⟩)
  | .error fault => (.error fault, ⟨environment, some (attempt, none), s.attempts⟩)

/-- The settings in force, with the number of their attempt; they are loaded if there are none. -/
def get : Except SettingsFault (Nat × Settings) × SettingsStore :=
  match s.slot with
  | some (attempt, some settings) => (.ok (attempt, settings), s)
  | some (attempt, none) => s.fill reader files file attempt
  | none => { s with attempts := s.attempts + 1 }.fill reader files file s.attempts

/-- Load new settings. -/
def reload : Except SettingsFault (Nat × Settings) × SettingsStore := s.reset.get reader files file

end Loading

end SettingsStore
end MetricExpr
