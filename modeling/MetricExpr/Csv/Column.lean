import MetricExpr.Binary64.Arithmetic
import MetricExpr.Datum
import MetricExpr.Text.Case
import MetricExpr.Text.Digit
/-!
# Columns of records

The cells of a column have one kind: integers if every one that is present is an integer, else reals if every one is a
numeral, else flags, else texts. Some words mark a missing cell, which is NaN; it turns integers into reals. Where that would
change an integer of 64 bits without a sign, all fields are texts as they are written.

A real cell is read digit by digit with the format's own operations, so that it may differ from the nearest double in
its last bit.
-/
namespace MetricExpr.Csv

/-- The texts of missing cells. -/
def missingWords : List String :=
  ["", "#N/A", "#N/A N/A", "#NA", "-1.#IND", "-1.#QNAN", "-NaN", "-nan", "1.#IND", "1.#QNAN", "<NA>", "N/A", "NA",
    "NULL", "NaN", "None", "n/a", "nan", "null"]

/-- A cell, unless it is missing. -/
def present? (cell : List Char) : Option (List Char) :=
  if missingWords.contains (String.ofList cell) then none else some cell

/-- White space of ASCII. -/
def isSpace (c : Char) : Bool := c == ' ' || (0x9 ≤ c.toNat && c.toNat ≤ 0xD)

/-! ## Integers -/

/-- Why a cell is no integer of the range. -/
inductive IntegerFault where
  | outOfRange
  | malformed
  deriving DecidableEq, Repr

/-- Whole digits with space after them, as a number with a bound. -/
def natural (bound : Nat) (cs : List Char) : Except IntegerFault Nat :=
  let (ds, rest) := cs.span Char.isDigit
  if ds.isEmpty then .error .malformed
  else
    let n := Text.digitsValue ds
    if bound < n then .error .outOfRange
    else if rest.all isSpace then .ok n
    else .error .malformed

/-- The greatest integer of 64 bits with a sign. -/
def greatestSigned : Nat := 0x7FFFFFFFFFFFFFFF

/-- The greatest integer of 64 bits without a sign. -/
def greatestUnsigned : Nat := 0xFFFFFFFFFFFFFFFF

/-- An integer of 64 bits with a sign. -/
def signed (cs : List Char) : Except IntegerFault Int :=
  match cs.dropWhile isSpace with
  | '-' :: cs => (natural (greatestSigned + 1) cs).map fun n => -(n : Int)
  | '+' :: cs => (natural greatestSigned cs).map Int.ofNat
  | cs => (natural greatestSigned cs).map Int.ofNat

/-- An integer of 64 bits without a sign; what starts with a minus is none, whatever follows. -/
def unsigned? (cs : List Char) : Except IntegerFault (Option Int) :=
  match cs.dropWhile isSpace with
  | '-' :: _ => .ok none
  | '+' :: cs => (natural greatestUnsigned cs).map fun n => some n
  | cs => (natural greatestUnsigned cs).map fun n => some n

/-- The value of every cell that is present; the first one without a value stops. -/
def each {α ε : Type} (f : List Char → Except ε α) (cells : List (Option (List Char))) :
    Except ε (List (Option α)) :=
  cells.mapM fun cell => match cell with
    | some cs => (f cs).map some
    | none => .ok none

/-! ## Reals -/

/-- How many digits of a numeral count. -/
def maxDigits : Nat := 17

/-- The number that digits write, each step rounded. -/
def accumulate (x : Binary64) (ds : List Char) : Binary64 :=
  ds.foldl (fun x d => x * Binary64.ofInt 10 + Binary64.ofInt (Text.digitsValue [d])) x

def powerOfTen (n : Nat) : Binary64 := Binary64.ofDecimal false 1 n

/-- A number times a power of ten: one product or quotient, or two quotients below the range of exponents. -/
def scaled (x : Binary64) (e : Int) : Binary64 :=
  if 0 < e then x * powerOfTen e.toNat
  else if e < -308 then x / powerOfTen (-308 - e).toNat / powerOfTen 308
  else x / powerOfTen (-e).toNat

/-- The exponent in front of a text and the rest; nothing if the text starts with none. -/
def exponent? : List Char → Option (Int × List Char)
  | c :: rest =>
    if c == 'e' || c == 'E' then
      let (negative, rest) : Bool × List Char := match rest with
        | '-' :: rest => (true, rest)
        | '+' :: rest => (false, rest)
        | rest => (false, rest)
      let ds := (rest.take maxDigits).takeWhile Char.isDigit
      if ds.isEmpty then none
      else
        let n : Int := Text.digitsValue ds
        some (if negative then -n else n, rest.drop ds.length)
    else none
  | [] => none

/-- A decimal numeral with space on both sides, within the range of the format. -/
def numeral? (cs : List Char) : Option Binary64 :=
  let (negative, cs) : Bool × List Char := match cs.dropWhile isSpace with
    | '-' :: cs => (true, cs)
    | '+' :: cs => (false, cs)
    | cs => (false, cs)
  let (whole, cs) := cs.span Char.isDigit
  let used := whole.take maxDigits
  let (fraction, cs) : List Char × List Char := match cs with
    | '.' :: cs => cs.span Char.isDigit
    | cs => ([], cs)
  let usedFraction := fraction.take (maxDigits - used.length)
  if used.isEmpty && usedFraction.isEmpty then none
  else
    let size := accumulate (accumulate (Binary64.zero false) used) usedFraction
    let e : Int := (whole.length - used.length : Nat) - (usedFraction.length : Int)
    let (e, cs) := match exponent? cs with
      | some (e', cs) => (e + e', cs)
      | none => (e, cs)
    let x := scaled (if negative then -size else size) e
    if e ≤ 308 && x.isFinite && cs.all isSpace then some x else none

/-- An infinity by its word, in any letter case. -/
def infinity? (cs : List Char) : Option Binary64 :=
  let word := String.ofList (cs.map Char.toLower)
  if ["inf", "+inf", "infinity", "+infinity"].contains word then some (.infinity false)
  else if ["-inf", "-infinity"].contains word then some (.infinity true)
  else none

def real? (cs : List Char) : Option Binary64 := numeral? cs <|> infinity? cs

/-! ## Columns -/

/-- A truth value by its word, in any letter case. -/
def flag? (cs : List Char) : Option Bool :=
  match String.ofList (cs.map Char.toLower) with
  | "true" => some true
  | "false" => some false
  | _ => none

/-- A missing cell as a datum. -/
def missing : Datum := .real .nan

/-- The least integer of 64 bits stands for a missing cell among integers, and so does whatever rounds to it. -/
def realOfInteger (n : Int) : Binary64 :=
  let x := Binary64.ofInt n
  if x.eq (Binary64.ofInt (-greatestSigned - 1)) then .nan else x

/-- A column of integers, as reals if a cell is missing. -/
def integerColumn (cells : List (Option Int)) : List Datum :=
  if cells.all (·.isSome) then cells.map fun n => .integer (n.getD 0)
  else cells.map fun n => .real (n.elim .nan realOfInteger)

/-- Does a column mix integers that take all 64 bits with negative ones or with missing cells? -/
def isMixed (cells : List (Option (List Char))) : Bool :=
  match each signed cells, each unsigned? cells with
  | .error .outOfRange, .ok ns => ns.any (·.join.any fun n => (greatestSigned : Int) < n) && ns.any (·.join.isNone)
  | _, _ => false

/-- A column of numbers, if it is one. Beyond the integers of 64 bits with a sign are those without one, if no cell is
negative or missing. -/
def numberColumn? (cells : List (Option (List Char))) : Option (List Datum) :=
  let reals := ((each (fun cs => (real? cs).elim (.error ()) .ok) cells).toOption).map fun xs =>
    xs.map fun x => Datum.real (x.getD .nan)
  match each signed cells with
  | .ok ns => some (integerColumn ns)
  | .error .malformed => reals
  | .error .outOfRange =>
    match each unsigned? cells with
    | .ok ns => if ns.all (·.join.isSome) then some (integerColumn (ns.map (·.join))) else none
    | .error .malformed => reals
    | .error .outOfRange => none

/-- A column of flags, if it is one. -/
def flagColumn? (cells : List (Option (List Char))) : Option (List Datum) :=
  ((each (fun cs => (flag? cs).elim (.error ()) .ok) cells).toOption).map fun bs =>
    bs.map fun b => b.elim missing .flag

def textColumn (cells : List (Option (List Char))) : List Datum :=
  cells.map fun cell => cell.elim missing fun cs => .text (String.ofList cs)

/-- The data of a column's fields. -/
def column (fields : List (List Char)) : List Datum :=
  let cells := fields.map present?
  if isMixed cells then fields.map fun cs => .text (String.ofList cs)
  else (numberColumn? cells <|> flagColumn? cells).getD (textColumn cells)

end MetricExpr.Csv
