import MetricExpr.OrderedMap
import MetricExpr.Text.Quoted
/-!
# Files

A tree of files below one directory. Files are found by relative paths; a path has one normal form, without empty and
`.` steps. What the system says about a path is an `Access`: there may be nothing, something that is read or not, or the
question itself is refused.
-/
namespace MetricExpr

/-! ## Access -/

/-- Why the system refuses something, by its number and in words. -/
structure AccessFault where
  number : Nat
  reason : String
  deriving DecidableEq, Repr

namespace AccessFault

def notFound : AccessFault := ⟨2, "No such file or directory"⟩

def isADirectory : AccessFault := ⟨21, "Is a directory"⟩

def nameTooLong : AccessFault := ⟨36, "File name too long"⟩

/-- The whole message about a path. -/
def message (path : String) (fault : AccessFault) : String :=
  "[Errno " ++ toString fault.number ++ "] " ++ fault.reason ++ ": " ++ Text.quote path

end AccessFault

/-- What the system says about a path. -/
inductive Access where
  | missing
  /-- It does not even say whether something is there. -/
  | refused (fault : AccessFault)
  /-- Something is there. Its bytes are read, or not. -/
  | found (content : Except AccessFault (List UInt8))

/-! ## Paths -/

/-- The steps of a path between slashes, without empty ones and `.`. -/
def pathSteps (path : String) : List String :=
  ((path.toList.splitOn '/').filter fun step => !(step.isEmpty || step == ['.'])).map String.ofList

/-- Does the path start at the root? -/
def isAbsolute (path : String) : Bool := path.toList.head? == some '/'

/-- The normal form of a path; the directory itself is `.`. -/
def normalPath (path : String) : String :=
  let steps := pathSteps path
  let body := "/".intercalate steps
  if isAbsolute path then "/" ++ body else if steps.isEmpty then "." else body

/-- The steps after each `..` has taken back the step before it. The steps done have the last one first; where there is
nothing to take back, `..` stays in a path below a directory and means nothing at the root. -/
def resolveSteps (absolute : Bool) : List String → List String → List String
  | done, [] => done.reverse
  | done, ".." :: rest =>
    match done with
    | step :: before =>
      if step == ".." then resolveSteps absolute (".." :: done) rest else resolveSteps absolute before rest
    | [] => resolveSteps absolute (if absolute then [] else [".."]) rest
  | done, step :: rest => resolveSteps absolute (step :: done) rest

/-- The last step of a path. -/
def fileName (path : String) : String := (pathSteps path).getLast?.getD ""

/-- The part of a file name from its last dot on; a name that starts or ends with its only dot has none. -/
def suffixOf (path : String) : String :=
  let cs := (fileName path).toList
  let after := (cs.reverse.takeWhile (· != '.')).reverse
  if after.length + 1 < cs.length && !after.isEmpty then
    String.ofList ('.' :: after)
  else ""

/-! ## Trees -/

/-- Files by normal path. -/
structure Files where
  contents : OrderedMap String (List UInt8)
  deriving Inhabited

namespace Files

def empty : Files := ⟨.empty⟩

/-- The place that a path leads to. The directory itself has no name. -/
def locate (path : String) : String :=
  let absolute := isAbsolute path
  let steps := "/".intercalate (resolveSteps absolute [] (pathSteps path))
  if absolute then "/" ++ steps else steps

def read? (files : Files) (path : String) : Option (List UInt8) := files.contents.get? (locate path)

def write (files : Files) (path : String) (content : List UInt8) : Files :=
  ⟨files.contents.insert (locate path) content⟩

def writeText (files : Files) (path text : String) : Files := files.write path text.toUTF8.toList

theorem read?_writeText (files : Files) (path text : String) :
    (files.writeText path text).read? path = some text.toUTF8.toList :=
  OrderedMap.get?_insert_self _ _ _

/-- Add text at the end of a file, which is made if it is not there. -/
def append (files : Files) (path text : String) : Files :=
  files.write path ((files.read? path).getD [] ++ text.toUTF8.toList)

/-- Is there a directory at the path? Every file makes the directories above it, and what is above all files is one. -/
def isDirectory (files : Files) (path : String) : Bool :=
  (resolveSteps (isAbsolute path) [] (pathSteps path)).all (· == "..") ||
    files.contents.keys.any fun key => (locate path ++ "/").isPrefixOf key

/-- The most bytes that a path may have. -/
def maxPath : Nat := 4095

/-- The most bytes that a step may have. -/
def maxStep : Nat := 255

/-- Is a step too long that is looked for in a directory? -/
def meetsLongStep (files : Files) (path : String) : Bool :=
  let steps := pathSteps path
  let before := steps.takeWhile fun step => step.utf8ByteSize ≤ maxStep
  before.length < steps.length &&
    files.isDirectory ((if isAbsolute path then "/" else "") ++ "/".intercalate before)

/-- What the system says about a path to the files. -/
def look (files : Files) (path : String) : Access :=
  if maxPath < (normalPath path).utf8ByteSize then .refused .nameTooLong
  else
    match files.read? path with
    | some bytes => .found (.ok bytes)
    | none =>
      if files.isDirectory path then .found (.error .isADirectory)
      else if files.meetsLongStep path then .refused .nameTooLong
      else .missing

theorem look_of_read? {files : Files} {path : String} {bytes : List UInt8} (h : files.read? path = some bytes)
    (hshort : (normalPath path).utf8ByteSize ≤ maxPath) : files.look path = .found (.ok bytes) := by
  rw [look, if_neg (Nat.not_lt.2 hshort), h]

theorem read?_of_look {files : Files} {path : String} {bytes : List UInt8} (h : files.look path = .found (.ok bytes)) :
    files.read? path = some bytes := by
  unfold look at h
  split at h
  · cases h
  split at h
  · rename_i hread
    cases h
    exact hread
  · split at h
    · cases h
    · split at h <;> cases h

theorem look_writeText (files : Files) (path text : String)
    (hshort : (normalPath path).utf8ByteSize ≤ maxPath) :
    (files.writeText path text).look path = .found (.ok text.toUTF8.toList) :=
  look_of_read? (files.read?_writeText path text) hshort

/-- Why the system refuses a path, if it does. -/
def refusal? (files : Files) (path : String) : Option AccessFault :=
  match files.look path with
  | .refused fault => some fault
  | _ => none

end Files
end MetricExpr
