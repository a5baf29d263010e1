import Calculator.Decimal.Reading
import Calculator.Json
import Calculator.Text.Hexadecimal

/-!
# Reading JSON

The JSON grammar, with the numbers `NaN`, `Infinity` and `-Infinity` besides. A text is refused at
the first place where it breaks the grammar. Whole numbers of more than `longestInteger` digits and
values nested more than `deepestNesting` levels are refused as well, with causes of their own.

How deep a value may be nested is no property of the text: of a thousand calls that may lie within each
other, the reader has what the calls around it leave. `deepestNesting` belongs to one call site, a store
that is called from the outermost functions of a program; where it is called from further within, less
is left.
-/

namespace Calculator

namespace Json

/-- Why a text is not read as JSON. -/
inductive Fault where
  /-- The grammar is broken. -/
  | malformed
  /-- A whole number has too many digits. -/
  | longInteger (digits : Nat)
  /-- An array or an object is nested too deeply. -/
  | tooDeep (isObject : Bool)
deriving DecidableEq, Repr

/-- The greatest number of digits of a whole number. -/
def longestInteger : Nat := 4300

/-- The greatest number of arrays and objects that lie within each other, at the call site above. -/
def deepestNesting : Nat := 988

/-- The blanks of JSON. -/
def isSpace (c : Char) : Bool := c = ' ' ∨ c = '\t' ∨ c = '\n' ∨ c = '\r'

/-- The text without blanks in front. -/
def skip (cs : List Char) : List Char := cs.dropWhile isSpace

/-! ### Texts -/

/-- The character of an escape of one letter. -/
def escape? : Char → Option Char
  | '"' => some '"'
  | '\\' => some '\\'
  | '/' => some '/'
  | 'b' => some '\x08'
  | 'f' => some '\x0c'
  | 'n' => some '\n'
  | 'r' => some '\r'
  | 't' => some '\t'
  | _ => none

/-- Reads a text up to the closing quote. The units before come in reverse. An escape by number stands
for one unit, so that the two halves of a character are escaped one after the other. -/
def readText (before : CodeUnits) : List Char → Option (CodeUnits × List Char)
  | [] => none
  | '"' :: rest => some (before.reverse, rest)
  | '\\' :: 'u' :: a :: b :: c :: d :: rest =>
    match Text.hexFour? a b c d with
    | none => none
    | some n => readText (.ofNat n :: before) rest
  | '\\' :: letter :: rest =>
    match escape? letter with
    | none => none
    | some c => readText (.ofNat c.toNat :: before) rest
  | c :: rest =>
    if c = '\\' ∨ c.toNat < 0x20 then none
    else readText ((CodeUnits.ofChar c).reverse ++ before) rest

/-! ### Numbers -/

/-- The fraction at the beginning of a text, without its point. -/
def fraction (cs : List Char) : List Char :=
  match cs with
  | '.' :: rest => rest.takeWhile Char.isDigit
  | _ => []

/-- The exponent at the beginning of a text, without its mark. -/
def exponent (cs : List Char) : List Char :=
  match cs with
  | mark :: rest =>
    if mark = 'e' ∨ mark = 'E' then
      match rest with
      | '-' :: rest => if rest.takeWhile Char.isDigit = [] then [] else '-' :: rest.takeWhile Char.isDigit
      | '+' :: rest => if rest.takeWhile Char.isDigit = [] then [] else '+' :: rest.takeWhile Char.isDigit
      | rest => rest.takeWhile Char.isDigit
    else []
  | [] => []

/-- The digits of the whole part at the beginning of a text: a zero alone or digits that do not begin
with zero. -/
def wholePart (cs : List Char) : List Char :=
  match cs with
  | '0' :: _ => ['0']
  | _ => cs.takeWhile Char.isDigit

/-- Reads a number without its sign. It is a whole number unless it has a fraction or an exponent. -/
def readUnsigned (negative : Bool) (cs : List Char) : Except Fault (Json × List Char) :=
  let whole := wholePart cs
  if whole = [] then .error .malformed
  else
    let rest := cs.drop whole.length
    let fraction := fraction rest
    let rest := if fraction = [] then rest else rest.drop (fraction.length + 1)
    let exponent := exponent rest
    let rest := if exponent = [] then rest else rest.drop (exponent.length + 1)
    if fraction = [] ∧ exponent = [] then
      if longestInteger < whole.length then .error (.longInteger whole.length)
      else
        let n : Int := digitsValue whole
        .ok (.integer (if negative then -n else n), rest)
    else
      let scale := (Reading.exponent? exponent).getD 0
      let decimal : Decimal := ⟨digitsValue (whole ++ fraction), scale - fraction.length⟩
      .ok (.number (decimal.toDouble negative), rest)

/-! ### Values -/

mutual

/-- Reads a value. The first argument bounds the number of steps, the second is the number of levels
that may still be opened. -/
def readValue : Nat → Nat → List Char → Except Fault (Json × List Char)
  | 0, _, _ => .error .malformed
  | steps + 1, levels, cs =>
    match cs with
    | '"' :: rest =>
      match readText [] rest with
      | none => .error .malformed
      | some (s, rest) => .ok (.text s, rest)
    | '\x7b' :: rest =>
      match levels with
      | 0 => .error (.tooDeep true)
      | levels + 1 =>
        match skip rest with
        | '\x7d' :: rest => .ok (.object [], rest)
        | rest => readMembers steps levels [] rest
    | '[' :: rest =>
      match levels with
      | 0 => .error (.tooDeep false)
      | levels + 1 =>
        match skip rest with
        | ']' :: rest => .ok (.array [], rest)
        | rest => readElements steps levels [] rest
    | 'n' :: 'u' :: 'l' :: 'l' :: rest => .ok (.null, rest)
    | 't' :: 'r' :: 'u' :: 'e' :: rest => .ok (.bool true, rest)
    | 'f' :: 'a' :: 'l' :: 's' :: 'e' :: rest => .ok (.bool false, rest)
    | 'N' :: 'a' :: 'N' :: rest => .ok (.number .nan, rest)
    | 'I' :: 'n' :: 'f' :: 'i' :: 'n' :: 'i' :: 't' :: 'y' :: rest =>
      .ok (.number (.infinite false), rest)
    | '-' :: 'I' :: 'n' :: 'f' :: 'i' :: 'n' :: 'i' :: 't' :: 'y' :: rest =>
      .ok (.number (.infinite true), rest)
    | '-' :: rest => readUnsigned true rest
    | rest => readUnsigned false rest

/-- Reads the elements of an array from the next one on. The elements before come in reverse. -/
def readElements : Nat → Nat → List Json → List Char → Except Fault (Json × List Char)
  | 0, _, _, _ => .error .malformed
  | steps + 1, levels, before, cs =>
    match readValue steps levels cs with
    | .error fault => .error fault
    | .ok (value, rest) =>
      match skip rest with
      | ',' :: rest => readElements steps levels (value :: before) (skip rest)
      | ']' :: rest => .ok (.array (value :: before).reverse, rest)
      | _ => .error .malformed

/-- Reads the members of an object from the next one on. -/
def readMembers : Nat → Nat → List (CodeUnits × Json) → List Char → Except Fault (Json × List Char)
  | 0, _, _, _ => .error .malformed
  | steps + 1, levels, before, cs =>
    match cs with
    | '"' :: rest =>
      match readText [] rest with
      | none => .error .malformed
      | some (key, rest) =>
        match skip rest with
        | ':' :: rest =>
          match readValue steps levels (skip rest) with
          | .error fault => .error fault
          | .ok (value, rest) =>
            let members := putMember key value before
            match skip rest with
            | ',' :: rest => readMembers steps levels members (skip rest)
            | '\x7d' :: rest => .ok (.object members, rest)
            | _ => .error .malformed
        | _ => .error .malformed
    | _ => .error .malformed

end

/-- Reads a text that is one value with blanks around it. Every character is worth at most two
steps. -/
def ofChars (cs : List Char) : Except Fault Json :=
  match readValue (2 * cs.length + 2) deepestNesting (skip cs) with
  | .error fault => .error fault
  | .ok (value, rest) => if skip rest = [] then .ok value else .error .malformed

/-! ### Wording -/

/-- What is said of a whole number with too many digits. -/
def longIntegerMessage (count : Nat) : String :=
  "Exceeds the limit (" ++ String.ofList (digits longestInteger) ++
    " digits) for integer string conversion: value has " ++ String.ofList (digits count) ++
    " digits; use sys.set_int_max_str_digits() to increase the limit"

/-- What is said of a value that is nested too deeply. -/
def tooDeepMessage (isObject : Bool) : String :=
  "maximum recursion depth exceeded while decoding a JSON " ++
    (if isObject then "object" else "array") ++ " from a unicode string"

end Json

end Calculator
