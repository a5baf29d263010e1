import Calculator.Decimal.Reading
import Calculator.Expression.Error

/-!
# Tokens

A source is cut into numbers, operators and parentheses from left to right; spacing between them is
skipped. The cutting goes on until the end of the source or until a character that begins no token.

* `TokenStream.ofChars`: the tokens of a source and how they end.
* `Numeral.first`: the number at the beginning of a text, as long as possible.
-/

namespace Calculator

/-! ### Operators and numbers -/

/-- An operation on two numbers. -/
inductive Operator where
  | plus
  | minus
  | times
  | over
  | modulo
deriving DecidableEq, Repr

namespace Operator

/-- The character of an operator. -/
def symbol : Operator → Char
  | .plus => '+'
  | .minus => '-'
  | .times => '*'
  | .over => '/'
  | .modulo => '%'

/-- Whether the operator joins the terms of a sum; the others join the factors of a product. -/
def isAdditive : Operator → Bool
  | .plus | .minus => true
  | _ => false

/-- All operators. -/
def all : List Operator := [.plus, .minus, .times, .over, .modulo]

/-- The operator of a character. -/
def ofSymbol? (c : Char) : Option Operator := all.find? (·.symbol = c)

end Operator

/-- A number as it stands in a source: digits, and digits after a point. Without digits after it
there is no point. -/
structure Numeral where
  whole : List Char
  fraction : List Char
deriving DecidableEq, Repr

namespace Numeral

/-- The characters of a numeral. -/
def text (n : Numeral) : List Char :=
  if n.fraction = [] then n.whole else n.whole ++ '.' :: n.fraction

/-- The double nearest to the decimal that a numeral denotes. -/
def value (n : Numeral) : Double :=
  Decimal.toDouble false ⟨digitsValue (n.whole ++ n.fraction), -(n.fraction.length : Int)⟩

/-- The numeral at the beginning of a text that begins with a digit or a point, or the offset of a
point that no digit follows. -/
def first (cs : List Char) : Except Nat Numeral :=
  let whole := cs.takeWhile Char.isDigit
  match cs.dropWhile Char.isDigit with
  | '.' :: after =>
    let fraction := after.takeWhile Char.isDigit
    if fraction = [] then .error whole.length else .ok ⟨whole, fraction⟩
  | _ => .ok ⟨whole, []⟩

end Numeral

/-! ### Tokens -/

/-- What a token is. -/
inductive TokenKind where
  | number (numeral : Numeral)
  | operator (op : Operator)
  | opening
  | closing
deriving DecidableEq, Repr

/-- The characters of a token. -/
def TokenKind.text : TokenKind → List Char
  | .number numeral => numeral.text
  | .operator op => [op.symbol]
  | .opening => ['(']
  | .closing => [')']

/-- The token of one character other than a digit or a point. -/
def TokenKind.ofChar? (c : Char) : Option TokenKind :=
  if c = '(' then some .opening
  else if c = ')' then some .closing
  else (Operator.ofSymbol? c).map .operator

/-- A token and the position of its first character. -/
structure Token where
  kind : TokenKind
  position : Nat
deriving DecidableEq, Repr

/-- How the tokens of a source end. -/
inductive Ending where
  /-- At the end of the source. -/
  | complete (length : Nat)
  /-- At a character that begins no token, or a point that no digit follows. -/
  | broken (position : Nat)
deriving DecidableEq, Repr

/-- The error of a broken end. -/
def Ending.error? : Ending → Option Error
  | .complete _ => none
  | .broken position => some (.placed .lexing .invalidCharacter position)

/-- The tokens of a source up to where they end. -/
structure TokenStream where
  tokens : List Token
  ending : Ending
deriving DecidableEq, Repr

/-- The spacing between tokens. -/
def isSpacing (c : Char) : Bool := Text.isAsciiBlank c

namespace TokenStream

/-- The stream with one more token in front. -/
def cons (token : Token) (stream : TokenStream) : TokenStream :=
  ⟨token :: stream.tokens, stream.ending⟩

/-- The stream of a text that begins at a position of the source. -/
def scan (position : Nat) : List Char → TokenStream
  | [] => ⟨[], .complete position⟩
  | c :: rest =>
    if isSpacing c then scan (position + 1) rest
    else if c.isDigit ∨ c = '.' then
      match Numeral.first (c :: rest) with
      | .error offset => ⟨[], .broken (position + offset)⟩
      | .ok numeral =>
        cons ⟨.number numeral, position⟩
          (scan (position + numeral.text.length) (rest.drop (numeral.text.length - 1)))
    else
      match TokenKind.ofChar? c with
      | none => ⟨[], .broken position⟩
      | some kind => cons ⟨kind, position⟩ (scan (position + 1) rest)
termination_by cs => cs.length
decreasing_by all_goals simp_wf; try omega

/-- The stream of a source. -/
def ofChars (cs : List Char) : TokenStream := scan 0 cs

end TokenStream

end Calculator
