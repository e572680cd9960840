/-!
# Records

Comma-separated text is a list of records, and a record is a list of fields. A line feed or a carriage return ends a
record; lines without anything but blanks are no records. A field that starts with a quote may hold commas and line
ends, and a quote inside it is written twice.
-/
namespace MetricExpr.Csv

/-- Why a text is no table of records. -/
inductive Fault where
  /-- The text ends between quotes. -/
  | unclosedQuote
  /-- No record at all. -/
  | noColumns
  /-- A record with more fields than the one before it. -/
  | tooManyFields
  /-- No column has the name that is asked for. -/
  | noSuchColumn (name : String)
  deriving DecidableEq, Repr

/-- What the characters so far are part of. -/
inductive Place where
  /-- The start of a line. -/
  | line
  /-- Blanks at the start of a line. -/
  | blanks
  /-- The start of a field after a comma. -/
  | field
  /-- A field outside quotes. -/
  | bare
  /-- A field between quotes. -/
  | quoted
  /-- A field after a quote that may be its last. -/
  | quote
  deriving DecidableEq, Repr

/-- A reading in progress. The characters of the current field, the fields of the current record and the records are all kept
with the last one first. -/
structure Reading where
  place : Place
  current : List Char
  fields : List (List Char)
  records : List (List (List Char))
  deriving DecidableEq, Repr

namespace Reading

/-- Nothing read yet. -/
def start : Reading := ⟨.line, [], [], []⟩

/-- A character of the current field. -/
def push (r : Reading) (place : Place) (c : Char) : Reading := { r with place, current := c :: r.current }

/-- The current field is complete. -/
def endField (r : Reading) : Reading := { r with place := .field, current := [], fields := r.current.reverse :: r.fields }

/-- The current field and the current record are complete. -/
def endRecord (r : Reading) : Reading :=
  ⟨.line, [], [], (r.current.reverse :: r.fields).reverse :: r.records⟩

/-- A line without a record is left out. -/
def skipLine (r : Reading) : Reading := { r with place := .line, current := [] }

def isLineEnd (c : Char) : Bool := c == '\n' || c == '\r'

def isLineBlank (c : Char) : Bool := c == ' ' || c == '\t'

/-- A character that starts a field. -/
def first (r : Reading) (c : Char) : Reading :=
  if c == '"' then { r with place := .quoted }
  else if c == ',' then r.endField
  else r.push .bare c

/-- A character after others of its field, outside quotes. -/
def next (r : Reading) (c : Char) : Reading :=
  if isLineEnd c then r.endRecord
  else if c == ',' then r.endField
  else r.push .bare c

def step (r : Reading) (c : Char) : Reading :=
  match r.place with
  | .line => if isLineEnd c then r.skipLine else if isLineBlank c then r.push .blanks c else r.first c
  | .blanks => if isLineEnd c then r.skipLine else if isLineBlank c then r.push .blanks c else r.next c
  | .field => if isLineEnd c then r.endRecord else r.first c
  | .bare => r.next c
  | .quoted => if c == '"' then { r with place := .quote } else r.push .quoted c
  | .quote => if c == '"' then r.push .quoted c else r.next c

/-- The records at the end of the text. -/
def finish (r : Reading) : Except Fault (List (List (List Char))) :=
  match r.place with
  | .line | .blanks => .ok r.records.reverse
  | .quoted => .error .unclosedQuote
  | .field | .bare | .quote => .ok r.endRecord.records.reverse

end Reading

/-- The records of a text. -/
def records (cs : List Char) : Except Fault (List (List (List Char))) := (cs.foldl Reading.step .start).finish

end MetricExpr.Csv
