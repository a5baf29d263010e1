import Calculator.Text.Hexadecimal
import Calculator.Text.Printable
import Calculator.Text.Units

/-!
# Quoted texts

A text in quotes shows what it holds: quotes and backslashes are escaped, and characters that do not
print, and halves that stand alone, are given by number. Single quotes are used unless the text holds
one and no double quote.
-/

namespace Calculator.Text

/-- The quote that surrounds a text. -/
def quoteOf (ps : List CodePoint) : Char :=
  if .char '\'' ∈ ps ∧ .char '"' ∉ ps then '"' else '\''

/-- A character as it stands between the given quotes. -/
def quotedChar (quote c : Char) : List Char :=
  if c = quote ∨ c = '\\' then ['\\', c]
  else if c = '\n' then ['\\', 'n']
  else if c = '\r' then ['\\', 'r']
  else if c = '\t' then ['\\', 't']
  else if isPrintable c then [c]
  else if c.toNat < 0x100 then '\\' :: 'x' :: hex 2 c.toNat
  else if c.toNat < 0x10000 then '\\' :: 'u' :: hex 4 c.toNat
  else '\\' :: 'U' :: hex 8 c.toNat

/-- A code point as it stands between the given quotes. -/
def quotedPoint (quote : Char) : CodePoint → List Char
  | .char c => quotedChar quote c
  | .half unit => '\\' :: 'u' :: hex 4 unit.toNat

/-- A text in quotes. -/
def quoted (ps : List CodePoint) : List Char :=
  let quote := quoteOf ps
  quote :: (ps.flatMap (quotedPoint quote) ++ [quote])

/-- A text in quotes. -/
def quotedString (s : String) : String := .ofList (quoted (CodePoint.ofString s))

end Calculator.Text
