import Calculator.Decimal
import Calculator.Text.Blank
import Calculator.Text.DecimalDigit
import Calculator.Text.Quoted

/-!
# Numbers in texts

A text is read as a double when, without the blanks around it, it is a decimal with an optional sign
and exponent, or the name of an infinity or of the not-a-number in letters of either case. Digits may
be of any script, and a low line may stand between two digits.
-/

namespace Calculator

namespace Reading

/-- The text in ASCII: blanks become spaces and decimal digits of all scripts those of ASCII. Other
characters have no place in a number. -/
def plain? (cs : List Char) : Option (List Char) :=
  cs.mapM fun c =>
    if c.toNat < 0x80 then some c
    else if Text.isBlank c then some ' '
    else (Text.decimalDigit? c).map digitChar

/-- The text without its low lines, each of which must stand between two digits. `previous` is the
character before the text. -/
def joined? (previous : Char) : List Char → Option (List Char)
  | [] => if previous = '_' then none else some []
  | c :: rest =>
    if c = '_' then
      if previous.isDigit then joined? c rest else none
    else if previous = '_' ∧ ¬ c.isDigit then none
    else (joined? c rest).map (c :: ·)

/-- Whether a minus sign comes first, and the text after the sign if there is one. -/
def splitSign : List Char → Bool × List Char
  | '-' :: rest => (true, rest)
  | '+' :: rest => (false, rest)
  | cs => (false, cs)

/-- The exponent that an optional sign and digits denote. -/
def exponent? (cs : List Char) : Option Int :=
  let (negative, ds) := splitSign cs
  if ds = [] ∨ ¬ ds.all Char.isDigit then none
  else some (if negative then -(digitsValue ds : Int) else digitsValue ds)

/-- The decimal that digits with an optional point and exponent denote. -/
def decimal? (cs : List Char) : Option Decimal :=
  let whole := cs.takeWhile Char.isDigit
  let rest := cs.dropWhile Char.isDigit
  let (fraction, rest) :=
    match rest with
    | '.' :: after => (after.takeWhile Char.isDigit, after.dropWhile Char.isDigit)
    | _ => ([], rest)
  if whole = [] ∧ fraction = [] then none
  else
    let scaled (exponent : Int) : Decimal :=
      ⟨digitsValue (whole ++ fraction), exponent - fraction.length⟩
    match rest with
    | [] => some (scaled 0)
    | mark :: after =>
      if mark = 'e' ∨ mark = 'E' then (exponent? after).map scaled else none

/-- The double that a text without blanks and low lines denotes. -/
def number? (cs : List Char) : Option Double :=
  let (negative, rest) := splitSign cs
  let name := String.ofList (rest.map Char.toLower)
  if name = "nan" then some .nan
  else if name = "inf" ∨ name = "infinity" then some (.infinite negative)
  else (decimal? rest).map (·.toDouble negative)

end Reading

namespace Double

/-- The double that a text denotes. -/
def ofChars? (cs : List Char) : Option Double := do
  let plain ← Reading.plain? cs
  let joined ← Reading.joined? ' ' (Text.stripBy Text.isAsciiBlank plain)
  Reading.number? joined

/-- The double that a text denotes. -/
def ofText? (text : String) : Option Double := ofChars? text.toList

/-- What is said of a text that denotes no double. -/
def unreadableMessage (text : String) : String :=
  "could not convert string to float: " ++ Text.quotedString text

end Double

end Calculator
