import MetricExpr.Binary64.Arithmetic
import MetricExpr.Datum
import MetricExpr.Yaml.Timestamp
import MetricExpr.Yaml.Tree
/-!
# Documents

A document's tree becomes a datum. Quoted scalars are texts; a plain scalar is a flag, a number, a timestamp, nothing or a
text by its form. A repeated key keeps its place and takes the last value, and the key `<<` merges other mappings.
-/
namespace MetricExpr.Yaml

/-- Why a scalar in the form of a number or a timestamp is none. -/
inductive ScalarFault where
  /-- A number with a base but without digits. -/
  | noDigits (base : Nat)
  /-- A decimal number with more digits than are read. -/
  | tooManyDigits (count : Nat)
  | time (fault : TimeFault)
  deriving DecidableEq, Repr

def ScalarFault.message : ScalarFault → String
  | noDigits base => "invalid literal for int() with base " ++ toString base ++ ": ''"
  | tooManyDigits count =>
    "Exceeds the limit (" ++ toString integerDigitLimit ++ " digits) for integer string conversion: value has " ++
      toString count ++ " digits; use sys.set_int_max_str_digits() to increase the limit"
  | time fault => fault.message

/-- Why a document is no datum. -/
inductive DocumentFault where
  | malformed
  | scalar (fault : ScalarFault)
  deriving DecidableEq, Repr

/-! ## Forms of plain scalars -/

def trueWords : List String := ["yes", "Yes", "YES", "true", "True", "TRUE", "on", "On", "ON"]

def falseWords : List String := ["no", "No", "NO", "false", "False", "FALSE", "off", "Off", "OFF"]

def nullWords : List String := ["", "~", "null", "Null", "NULL"]

/-- A sign in front of a text, as whether it is negative, and the rest. -/
def signed : List Char → Bool × List Char
  | '-' :: cs => (true, cs)
  | '+' :: cs => (false, cs)
  | cs => (false, cs)

def withoutUnderscores (cs : List Char) : List Char := cs.filter (· != '_')

def isDigitOr (c : Char) : Bool := c.isDigit || c == '_'

/-- The number that digits of a base write. -/
def valueIn (base : Nat) (cs : List Char) : Nat := cs.foldl (fun n c => base * n + (Text.hexDigit? c).getD 0) 0

/-- Numbers between colons: one or two digits each, the first of two at most five. -/
def isSexagesimal (part : List Char) : Bool :=
  match part with
  | [d] => d.isDigit
  | [t, d] => '0' ≤ t && t ≤ '5' && d.isDigit
  | _ => false

/-- The parts of a text between colons. -/
def parts (cs : List Char) : List (List Char) :=
  let (head, rest) := cs.span (· != ':')
  match rest with
  | _ :: after => if after.length < cs.length then head :: parts after else [head]
  | [] => [head]
termination_by cs.length

/-- The number that decimal digits with underscores among them write. -/
def decimal (cs : List Char) : Except ScalarFault Nat :=
  let ds := withoutUnderscores cs
  if integerDigitLimit < ds.length then .error (.tooManyDigits ds.length) else .ok (valueIn 10 ds)

/-- An integer: decimal, binary, octal, hexadecimal, or in base sixty. -/
def integer? (cs : List Char) : Option (Except ScalarFault Int) :=
  let (negative, size) := signed cs
  let sign (n : Nat) : Int := if negative then -n else n
  let inBase (base : Nat) (ds : List Char) : Except ScalarFault Int :=
    if ds.all (· == '_') then .error (.noDigits base) else .ok (sign (valueIn base (withoutUnderscores ds)))
  match size with
  | ['0'] => some (.ok 0)
  | '0' :: 'b' :: ds =>
    if !ds.isEmpty && ds.all fun c => c == '0' || c == '1' || c == '_' then some (inBase 2 ds) else none
  | '0' :: 'x' :: ds =>
    if !ds.isEmpty && ds.all fun c => (Text.hexDigit? c).isSome || c == '_' then some (inBase 16 ds) else none
  | '0' :: ds =>
    if ds.all fun c => ('0' ≤ c && c ≤ '7') || c == '_' then some (.ok (sign (valueIn 8 (withoutUnderscores ds)))) else none
  | d :: _ =>
    match parts size with
    | [whole] => if d.isDigit && whole.all isDigitOr then some ((decimal whole).map sign) else none
    | whole :: rest =>
      if d.isDigit && whole.all isDigitOr && rest.all isSexagesimal then
        some ((decimal whole).map fun n => sign (rest.foldl (fun n part => 60 * n + valueIn 10 part) n))
      else none
    | [] => none
  | [] => none

/-- Digits with a point after them, an exponent with a sign or none. -/
def isPointed (cs : List Char) : Bool :=
  let (whole, rest) := cs.span isDigitOr
  match rest with
  | '.' :: rest =>
    let fraction := rest.takeWhile isDigitOr
    let led := if whole.isEmpty then fraction.head?.any Char.isDigit else whole.head?.any Char.isDigit
    let exponent := match rest.drop fraction.length with
      | [] => true
      | e :: s :: ds => (e == 'e' || e == 'E') && (s == '+' || s == '-') && !ds.isEmpty && ds.all Char.isDigit
      | _ => false
    led && exponent
  | _ => false

/-- A number in base sixty with a fraction: each part after the first counts sixty times less. -/
def sexagesimal (negative : Bool) (ps : List (List Char)) : Binary64 :=
  let number (cs : List Char) : Binary64 := (Binary64.ofText? (String.ofList cs)).getD .nan
  let (total, _) := ps.reverse.foldl
    (fun (total, base) part => (total + number part * base, base * Binary64.ofInt 60))
    (Binary64.zero false, Binary64.ofInt 1)
  if negative then -total else total

/-- A real number: with a point, in base sixty with a point, infinite or NaN. -/
def real? (cs : List Char) : Option Binary64 :=
  let (negative, size) := signed cs
  let word := String.ofList size
  let number (cs : List Char) : Option Binary64 := Binary64.ofText? (String.ofList (withoutUnderscores cs))
  if [".inf", ".Inf", ".INF"].contains word then some (.infinity negative)
  else if [".nan", ".NaN", ".NAN"].contains (String.ofList cs) then some .nan
  else if isPointed size then
    if size.head? == some '.' && size.length != cs.length then none else number cs
  else
    match parts size with
    | whole :: rest@(_ :: _) =>
      let last := rest.getLast?.getD []
      let (units, fraction) := last.span (· != '.')
      if whole.head?.any Char.isDigit && whole.all isDigitOr && rest.dropLast.all isSexagesimal &&
          isSexagesimal units && fraction.head? == some '.' && (fraction.drop 1).all isDigitOr then
        some (sexagesimal negative ((whole :: rest).map withoutUnderscores))
      else none
    | _ => none

/-- The datum of a plain scalar. The mark `=` alone stands for nothing that can be read. -/
def plainDatum (cs : List Char) : Except DocumentFault Datum :=
  let word := String.ofList cs
  if trueWords.contains word then .ok (.flag true)
  else if falseWords.contains word then .ok (.flag false)
  else
    match real? cs with
    | some x => .ok (.real x)
    | none =>
      match integer? cs with
      | some n => (n.map .integer).mapError .scalar
      | none =>
        if word == "<<" || word == "=" then .error .malformed
        else if nullWords.contains word then .ok .null
        else
          match timestamp? cs with
          | some time => time.mapError fun fault => .scalar (.time fault)
          | none => .ok (.text word)

/-! ## Data of trees -/

/-- The datum of a key. -/
def keyDatum : Tree → Except DocumentFault Datum
  | .scalar ['='] true => .ok (.text "=")
  | .scalar text true => plainDatum text
  | .scalar text false => .ok (.text (String.ofList text))
  | _ => .error .malformed

/-- Is the key the one that merges other mappings? -/
def isMerge : Tree → Bool
  | .scalar ['<', '<'] true => true
  | _ => false

mutual

/-- The datum of a tree. -/
def datum : Tree → Except DocumentFault Datum
  | .scalar text plain => if plain then plainDatum text else .ok (.text (String.ofList text))
  | .list items => do return .list (← dataOf items)
  | .mapping pairs => do return Datum.mappingOf ((← merged pairs) ++ (← entries pairs))

def dataOf : List Tree → Except DocumentFault (List Datum)
  | [] => .ok []
  | x :: xs => do return (← datum x) :: (← dataOf xs)

/-- The pairs of a mapping that merge nothing. -/
def entries : List (Tree × Tree) → Except DocumentFault (List (Datum × Datum))
  | [] => .ok []
  | (k, v) :: rest =>
    if isMerge k then entries rest
    else do
      let key ← keyDatum k
      let value ← datum v
      return (key, value) :: (← entries rest)

/-- The pairs that the merging keys of a mapping bring in, in front of its own. -/
def merged : List (Tree × Tree) → Except DocumentFault (List (Datum × Datum))
  | [] => .ok []
  | (k, v) :: rest => do
    let here ← if isMerge k then sources v else .ok []
    return here ++ (← merged rest)

/-- The pairs of a mapping, or of several where an earlier one wins. -/
def sources : Tree → Except DocumentFault (List (Datum × Datum))
  | .mapping pairs => do return (← merged pairs) ++ (← entries pairs)
  | .list items => sourcesOf items
  | .scalar .. => .error .malformed

def sourcesOf : List Tree → Except DocumentFault (List (Datum × Datum))
  | [] => .ok []
  | .mapping pairs :: rest => do
    let here ← do pure ((← merged pairs) ++ (← entries pairs))
    return (← sourcesOf rest) ++ here
  | _ => .error .malformed

end

/-- The datum of a document; an empty one is nothing. -/
def readDocument (s : String) : Except DocumentFault Datum :=
  match (Token.scan? s.toList).bind Tree.ofTokens? with
  | none => .error .malformed
  | some none => .ok .null
  | some (some tree) => datum tree

end MetricExpr.Yaml
