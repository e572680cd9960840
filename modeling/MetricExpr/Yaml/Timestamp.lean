import MetricExpr.Datum
/-!
# Timestamps

A plain scalar of four, two and two digits with dashes between them is a date. With a time of day behind it, a month or a
day may have one digit, and the seconds may have a fraction and an offset from universal time.
-/
namespace MetricExpr.Yaml

/-- Why what has the form of a timestamp is none. -/
inductive TimeFault where
  | year
  | month
  | day
  | hour
  | minute
  | second
  /-- The offset is a day or more. -/
  | offset (minutes : Int)
  deriving DecidableEq, Repr

def TimeFault.message : TimeFault → String
  | year => "year 0 is out of range"
  | month => "month must be in 1..12"
  | day => "day is out of range for month"
  | hour => "hour must be in 0..23"
  | minute => "minute must be in 0..59"
  | second => "second must be in 0..59"
  | offset minutes =>
    let seconds := minutes % 1440 * 60
    "offset must be a timedelta strictly between -timedelta(hours=24) and timedelta(hours=24), not datetime.timedelta(days=" ++
      toString (minutes / 1440) ++ (if seconds == 0 then "" else ", seconds=" ++ toString seconds) ++ ")."

/-- The days of a month. -/
def daysIn (year month : Nat) : Nat :=
  if month == 2 then
    if year % 4 == 0 && (year % 100 != 0 || year % 400 == 0) then 29 else 28
  else if [4, 6, 9, 11].contains month then 30
  else 31

/-- The day of a year and a month, if there is one. -/
def checkDay (year month day : Nat) : Except TimeFault Unit :=
  if year == 0 then .error .year
  else if month == 0 || 12 < month then .error .month
  else if day == 0 || daysIn year month < day then .error .day
  else .ok ()

/-- One or two digits in front of a text as a number, and the rest. -/
def shortNumber? (cs : List Char) : Option (Nat × List Char) :=
  let ds := (cs.take 2).takeWhile Char.isDigit
  if ds.isEmpty then none else some (Text.digitsValue ds, cs.drop ds.length)

/-- A year, a month and a day in front of a text, and the rest. -/
def day? : List Char → Option ((Nat × Nat × Nat) × List Char)
  | a :: b :: c :: d :: '-' :: rest => do
    guard ([a, b, c, d].all Char.isDigit)
    let (month, rest) ← shortNumber? rest
    guard (rest.head? == some '-')
    let (day, rest) ← shortNumber? (rest.drop 1)
    return ((Text.digitsValue [a, b, c, d], month, day), rest)
  | _ => none

/-! ## Times of day -/

/-- A time of day. -/
structure Clock where
  hour : Nat
  minute : Nat
  second : Nat
  /-- The digits of the fraction. -/
  fraction : List Char
  /-- The minutes ahead of universal time, if they are given. -/
  offset : Option Int

namespace Clock

/-- A colon and two digits in front of a text as a number, and the rest. -/
def part? : List Char → Option (Nat × List Char)
  | ':' :: t :: d :: rest => if t.isDigit && d.isDigit then some (Text.digitsValue [t, d], rest) else none
  | _ => none

def isBlank (c : Char) : Bool := c == ' ' || c == '\t'

/-- The offset that a whole text gives; no text gives none. -/
def offset? (cs : List Char) : Option (Option Int) :=
  if cs.isEmpty then some none
  else
    match cs.dropWhile isBlank with
    | ['Z'] => some (some 0)
    | sign :: rest => do
      guard (sign == '+' || sign == '-')
      let (hours, rest) ← shortNumber? rest
      let (minutes, rest) ← if rest.isEmpty then some (0, []) else part? rest
      guard rest.isEmpty
      let size : Int := 60 * hours + minutes
      return some (if sign == '-' then -size else size)
    | [] => none

/-- The time of day that a whole text is. -/
def ofText? (cs : List Char) : Option Clock := do
  let (hour, rest) ← shortNumber? cs
  let (minute, rest) ← part? rest
  let (second, rest) ← part? rest
  let (fraction, rest) : List Char × List Char := match rest with
    | '.' :: rest => rest.span Char.isDigit
    | rest => ([], rest)
  let offset ← offset? rest
  return { hour, minute, second, fraction, offset }

def checkOffset (c : Clock) : Except TimeFault Unit :=
  match c.offset with
  | some minutes => if minutes.natAbs < 1440 then .ok () else .error (.offset minutes)
  | none => .ok ()

def check (c : Clock) : Except TimeFault Unit :=
  if 23 < c.hour then .error .hour
  else if 59 < c.minute then .error .minute
  else if 59 < c.second then .error .second
  else .ok ()

/-- The time of day with six digits of its fraction, or without one if they are zero. -/
def text (c : Clock) : String :=
  let digits := (c.fraction ++ List.replicate 6 '0').take 6
  let fraction := if digits.all (· == '0') then [] else '.' :: digits
  let offset := match c.offset with
    | some minutes =>
      (if minutes < 0 then '-' else '+') :: padded 2 (minutes.natAbs / 60) ++ ':' :: padded 2 (minutes.natAbs % 60)
    | none => []
  String.ofList (padded 2 c.hour ++ ':' :: padded 2 c.minute ++ ':' :: padded 2 c.second ++ fraction ++ offset)

end Clock

/-- A date, or a date with a time of day. The offset is looked at first. -/
def timestamp? (cs : List Char) : Option (Except TimeFault Datum) := do
  let ((year, month, day), rest) ← day? cs
  match rest with
  | [] => if cs.length == 10 then some ((checkDay year month day).map fun _ => .date year month day) else none
  | mark :: after => do
    let clock ←
      if mark == 'T' || mark == 't' then Clock.ofText? after
      else if Clock.isBlank mark then Clock.ofText? (after.dropWhile Clock.isBlank)
      else none
    return do
      clock.checkOffset
      checkDay year month day
      clock.check
      return .other "datetime" ((Datum.date year month day).toText ++ " " ++ clock.text)

end MetricExpr.Yaml
