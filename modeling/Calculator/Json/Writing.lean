import Calculator.Text.Hexadecimal
import Calculator.Text.Units

/-!
# Writing JSON

Lists of records of texts, written in ASCII: an array of objects with one member a line, indented by
two blanks for every level.
-/

namespace Calculator

namespace Json

/-- A unit as four digits. -/
def unitEscape (unit : UInt16) : List Char := '\\' :: 'u' :: Text.hex 4 unit.toNat

/-- The escape of a character that has one of one letter. -/
def letterEscape? : Char → Option Char
  | '"' => some '"'
  | '\\' => some '\\'
  | '\n' => some 'n'
  | '\r' => some 'r'
  | '\t' => some 't'
  | '\x08' => some 'b'
  | '\x0c' => some 'f'
  | _ => none

/-- A unit between quotes. Quotes, backslashes and units that are not printable ASCII are escaped. -/
def writtenUnit (unit : UInt16) : List Char :=
  if unit.toNat < 0x7F then
    let c := Char.ofNat unit.toNat
    match letterEscape? c with
    | some letter => ['\\', letter]
    | none => if 0x20 ≤ unit.toNat then [c] else unitEscape unit
  else unitEscape unit

/-- A text in quotes. -/
def writtenText (s : CodeUnits) : List Char := '"' :: (s.flatMap writtenUnit ++ ['"'])

/-- Items on lines of their own, separated by commas. -/
def writtenItems : List (List Char) → List Char
  | [] => []
  | [item] => item
  | item :: next :: rest => item ++ ',' :: '\n' :: writtenItems (next :: rest)

/-- A member of an object. -/
def writtenMember (m : String × CodeUnits) : List Char :=
  ' ' :: ' ' :: ' ' :: ' ' :: (writtenText (CodeUnits.ofString m.1) ++ ':' :: ' ' :: writtenText m.2)

/-- An object of texts. -/
def writtenRecord (members : List (String × CodeUnits)) : List Char :=
  ' ' :: ' ' :: '\x7b' :: '\n' ::
    (writtenItems (members.map writtenMember) ++ ['\n', ' ', ' ', '\x7d'])

/-- An array of objects of texts, each of which has a member. -/
def writtenRecords (records : List (List (String × CodeUnits))) : List Char :=
  if records = [] then ['[', ']']
  else '[' :: '\n' :: (writtenItems (records.map writtenRecord) ++ ['\n', ']'])

end Json

end Calculator
