import MetricExpr.Binary64.Arithmetic
import MetricExpr.Text.Blank
import MetricExpr.Text.Digit
/-!
# Numerals

A numeral is digits with an optional fraction, or a fraction alone, and an optional exponent. It is read off the front
of a text as far as it goes; its value is the nearest double. `Binary64.ofText?` and `readInt?` read whole texts.
-/
namespace MetricExpr

/-- The parts of a numeral as they stand in the text. -/
structure Numeral where
  /-- Digits before the point. -/
  whole : List Char
  /-- Digits after the point, if there is a point. -/
  fraction : Option (List Char)
  /-- The exponent's letter, its sign if it has one, and its digits. -/
  exponent : Option (Char × List Char × List Char)
  deriving DecidableEq, Repr

namespace Numeral

/-- The text of the numeral. -/
def lexeme (n : Numeral) : List Char :=
  n.whole ++ (match n.fraction with | some ds => '.' :: ds | none => []) ++
    (match n.exponent with | some (letter, sign, ds) => letter :: sign ++ ds | none => [])

/-- The power of ten that the exponent writes. -/
def scale (n : Numeral) : Int :=
  match n.exponent with
  | none => 0
  | some (_, sign, ds) => if sign == ['-'] then -(Text.digitsValue ds : Int) else Text.digitsValue ds

/-- The double nearest to the numeral's value. -/
def value (n : Numeral) : Binary64 :=
  let fraction := n.fraction.getD []
  Binary64.ofDecimal false (Text.digitsValue (n.whole ++ fraction)) (n.scale - fraction.length)

/-- The digits in front of a text and the rest. -/
def digits (cs : List Char) : List Char × List Char := cs.span Text.isDigit

/-- An optional sign in front of a text and the rest. -/
def sign : List Char → List Char × List Char
  | '+' :: rest => (['+'], rest)
  | '-' :: rest => (['-'], rest)
  | cs => ([], cs)

/-- An exponent in front of a text: a letter, a sign or none, and at least one digit. -/
def exponent? : List Char → Option ((Char × List Char × List Char) × List Char)
  | letter :: rest =>
    if letter == 'e' || letter == 'E' then
      let (s, rest) := sign rest
      let (ds, rest) := digits rest
      if ds.isEmpty then none else some ((letter, s, ds), rest)
    else none
  | [] => none

/-- Digits with or without a fraction, or a fraction with at least one digit. -/
def mantissa? (cs : List Char) : Option (List Char × Option (List Char) × List Char) :=
  let (whole, rest) := digits cs
  match rest with
  | '.' :: after =>
    let (fraction, rest) := digits after
    if whole.isEmpty && fraction.isEmpty then none else some (whole, some fraction, rest)
  | _ => if whole.isEmpty then none else some (whole, none, rest)

/-- The longest numeral in front of a text, and the rest. -/
def scan? (cs : List Char) : Option (Numeral × List Char) :=
  (mantissa? cs).map fun (whole, fraction, rest) =>
    match exponent? rest with
    | some (exponent, rest) => (⟨whole, fraction, some exponent⟩, rest)
    | none => (⟨whole, fraction, none⟩, rest)

end Numeral

/-- The text without the underscores that stand between two digits; an underscore anywhere else refuses it. -/
def joinDigits? : Option Char → List Char → Option (List Char)
  | _, [] => some []
  | previous, '_' :: rest =>
    if previous.any Text.isDigit && rest.head?.any Text.isDigit then joinDigits? (some '_') rest else none
  | _, c :: rest => (joinDigits? (some c) rest).map (c :: ·)

/-- The named numbers, in any letter case. -/
def named? (cs : List Char) : Option Binary64 :=
  match cs.map Char.toLower with
  | ['i', 'n', 'f'] | ['i', 'n', 'f', 'i', 'n', 'i', 't', 'y'] => some (.infinity false)
  | ['n', 'a', 'n'] => some .nan
  | _ => none

/-- The double that a whole text writes: blanks around it, a sign, then a numeral or a named number. -/
def Binary64.ofText? (s : String) : Option Binary64 := do
  let cs ← joinDigits? none (Text.stripBy Text.isNumberBlank s.toList)
  let (sign, cs) := Numeral.sign cs
  let size ← match named? cs with
    | some x => some x
    | none =>
      match Numeral.scan? cs with
      | some (n, []) => some n.value
      | _ => none
  return if sign == ['-'] then -size else size

/-- A text of more digits than this is not read as an integer. -/
def integerDigitLimit : Nat := 4300

/-- The integer that a whole text writes: blanks around it, a sign, then digits of any script. -/
def readInt? (s : String) : Option Int := do
  let cs ← joinDigits? none (Text.stripBy Text.isNumberBlank s.toList)
  let (sign, cs) := Numeral.sign cs
  if cs.isEmpty || !cs.all Text.isDigit || integerDigitLimit < cs.length then none
  else
    let size := Text.digitsValue cs
    return if sign == ['-'] then -(size : Int) else size

end MetricExpr
