import Calculator.Text.Ranges

/-!
# Blank characters

The blank characters of Unicode 14: those of bidirectional class white space, segment separator or
paragraph separator, and the space separators. Stripping a text takes them off both ends.
-/

namespace Calculator.Text

/-- Where the blank characters begin and end. -/
def blankBounds : List Nat := [
  9, 14, 28, 33, 133, 134, 160, 161, 5760, 5761, 8192, 8203, 8232, 8234, 8239, 8240, 8287, 8288,
  12288, 12289]

/-- Whether the character is blank. -/
def isBlank (c : Char) : Bool := inRanges blankBounds c.toNat

/-- The text without the characters of a class at its ends. -/
def stripBy (p : Char → Bool) (cs : List Char) : List Char :=
  ((cs.dropWhile p).reverse.dropWhile p).reverse

/-- The text without blank characters at its ends. -/
def strip (cs : List Char) : List Char := stripBy isBlank cs

/-- The six blank characters of ASCII that may surround a number. -/
def isAsciiBlank (c : Char) : Bool :=
  c = ' ' ∨ c = '\t' ∨ c = '\n' ∨ c = '\r' ∨ c = '\x0b' ∨ c = '\x0c'

end Calculator.Text
