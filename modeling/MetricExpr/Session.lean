import MetricExpr.Files
import MetricExpr.Journal
import MetricExpr.Settings
/-!
# Sessions

A session is what outlives a command: the files, the settings and the journal. Log files are among the files.
-/
namespace MetricExpr

/-- The state between commands. -/
structure Session where
  files : Files
  settings : SettingsStore
  journal : Journal
  deriving Inhabited

namespace Session

/-- A session with these files in which nothing has been done yet. -/
def start (files : Files) : Session := ⟨files, .empty, .fresh⟩

/-- Make the journal's files, if they are not there. -/
def openFiles (s : Session) : Session :=
  s.journal.outputs.foldl
    (fun s output =>
      match output with
      | .console => s
      | .file path => { s with files := s.files.append path "" })
    s

/-- Write what a message adds to an output: what the console shows, and the session after it. -/
def emit (shown : String × Session) (line : Output × String) : String × Session :=
  match line with
  | (.console, text) => (shown.1 ++ text, shown.2)
  | (.file path, text) => (shown.1, { shown.2 with files := shown.2.files.append path text })

/-- Write a message to the journal. -/
def record (s : Session) (r : Record) : String × Session := (s.journal.lines r).foldl emit ("", s)

/-- Write messages in order. -/
def recordAll (s : Session) (rs : List Record) : String × Session :=
  rs.foldl (fun (shown, s) r => (shown ++ (s.record r).1, (s.record r).2)) ("", s)

/-- The outcome of a call that may set the journal up; its files are made at once. -/
def withJournal (s : Session) (outcome : Except LevelFault Nat × Journal) : Except LevelFault Nat × Session :=
  match outcome with
  | (.ok handle, journal) => (.ok handle, { s with journal }.openFiles)
  | (.error fault, journal) => (.error fault, { s with journal })

end Session
end MetricExpr
