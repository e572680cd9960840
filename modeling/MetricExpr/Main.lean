import MetricExpr.Command.Run
/-!
# The program

Everything that a command computes is a function of the words, the files and the environment. This module reads them,
runs the command, prints the answer and writes the log files.
-/
namespace MetricExpr.Command

/-- The environment variables that settings come from. -/
def variableNames : List String :=
  ["PATHEXPR_LOG_LEVEL", "PATHEXPR_LOG_DIR", "PATHEXPR_TIE_BREAK", "PATHEXPR_PRECISION"]

/-- The paths that words may name: whole words, and values after an equals sign. -/
def namedPaths (words : List String) : List String :=
  words ++ words.flatMap fun word => (word.splitOn "=").drop 1

/-- Read a file if it is there. -/
def readInto (files : Files) (path : String) : IO Files := do
  try
    return files.write path (← IO.FS.readBinFile path).toList
  catch _ => return files

def readFiles (words : List String) : IO Files :=
  (SettingsStore.defaultFile :: namedPaths words).foldlM readInto .empty

def readVariables (s : Session) : IO Session :=
  variableNames.foldlM
    (fun s name => do return { s with settings := s.settings.assign name (← IO.getEnv name) })
    s

/-- Add to the files on disk what a command has added to its files. -/
def writeLogs (before after : Files) : IO Unit :=
  after.contents.entries.forM fun (path, bytes) => do
    let old := (before.read? path).getD []
    if bytes != old then
      let steps := path.splitOn "/"
      if 1 < steps.length then IO.FS.createDirAll ("/".intercalate steps.dropLast)
      IO.FS.withFile path .append fun handle => handle.write ⟨(bytes.drop old.length).toArray⟩

end MetricExpr.Command

open MetricExpr MetricExpr.Command in
/-- Run the command line. -/
def main (words : List String) : IO UInt32 := do
  let files ← readFiles words
  let session ← readVariables (.start files)
  let (reply, after) := run words session
  writeLogs files after.files
  match reply with
  | .ok reply => do
    (← IO.getStdout).putStr reply.output
    (← IO.getStderr).putStr reply.errors
    return reply.exit.code.toUInt32
  | .error fault => do
    (← IO.getStderr).putStrLn fault.message
    return 1
