import MetricExpr.Text.Ranges
/-!
# Blank characters

The blanks are the white space of the Unicode standard together with the four separators U+001C to U+001F. The
zero-width characters and the byte-order mark are not blank.
-/
namespace MetricExpr.Text

/-- The blank characters, as closed ranges of code points. -/
def blankRanges : List (Nat × Nat) := [
  (0x9, 0xD), (0x1C, 0x20), (0x85, 0x85), (0xA0, 0xA0), (0x1680, 0x1680), (0x2000, 0x200A), (0x2028, 0x2029),
  (0x202F, 0x202F), (0x205F, 0x205F), (0x3000, 0x3000)]

/-- White space between tokens and around words. -/
def isBlank (c : Char) : Bool := inRanges blankRanges c

/-- White space around numbers: the blanks without the four separators. -/
def isNumberBlank (c : Char) : Bool := isBlank c && !(0x1C ≤ c.toNat && c.toNat ≤ 0x1F)

/-- The text without the characters of a class at both ends. -/
def stripBy (p : Char → Bool) (cs : List Char) : List Char :=
  ((cs.dropWhile p).reverse.dropWhile p).reverse

/-- The text without the blanks at both ends. -/
def strip (cs : List Char) : List Char := stripBy isBlank cs

end MetricExpr.Text
