import Calculator.Decimal.Shortest

/-!
# Decimal notation of doubles

A decimal is written positionally as long as its leading digit is not too far from the point, and
otherwise as one leading digit with an exponent. What counts as too far, and the marks used, are the
fields of a `Layout`.
-/

namespace Calculator

/-- The choices in writing a decimal. -/
structure Layout where
  /-- The least power of ten of the leading digit that is written positionally. -/
  positionalFrom : Int
  /-- The first power of ten of the leading digit that is no longer written positionally. -/
  positionalBelow : Int
  /-- What follows the digits of a whole number in positional notation. -/
  wholeMark : List Char
  /-- What stands between the digits and the exponent. -/
  exponentMark : Char
  /-- The least number of digits of an exponent. -/
  exponentWidth : Nat

namespace Layout

/-- Positional from a ten-thousandth to below ten to the sixteenth, a whole number marked as `.0`,
and an exponent with a sign and at least two digits. -/
def plain : Layout where
  positionalFrom := -4
  positionalBelow := 16
  wholeMark := ['.', '0']
  exponentMark := 'e'
  exponentWidth := 2

/-- An exponent with its sign. -/
def exponentText (layout : Layout) (exponent : Int) : List Char :=
  layout.exponentMark :: (if exponent < 0 then '-' else '+') ::
    paddedDigits layout.exponentWidth exponent.natAbs

/-- Digits with the point after the first `whole` of them. -/
def positional (layout : Layout) (ds : List Char) (whole : Int) : List Char :=
  if whole ≤ 0 then
    '0' :: '.' :: (List.replicate whole.natAbs '0' ++ ds)
  else if ds.length ≤ whole.toNat then
    ds ++ List.replicate (whole.toNat - ds.length) '0' ++ layout.wholeMark
  else
    ds.take whole.toNat ++ '.' :: ds.drop whole.toNat

/-- Digits with the point after the first of them, and an exponent. -/
def exponential (layout : Layout) (ds : List Char) (exponent : Int) : List Char :=
  match ds with
  | [] => []
  | [d] => d :: layout.exponentText exponent
  | d :: rest => d :: '.' :: (rest ++ layout.exponentText exponent)

/-- The text of a decimal other than zero. -/
def decimal (layout : Layout) (d : Decimal) : List Char :=
  let ds := digits d.coefficient
  let leading := ds.length + d.exponent - 1
  if layout.positionalFrom ≤ leading ∧ leading < layout.positionalBelow then
    layout.positional ds (leading + 1)
  else layout.exponential ds leading

/-- The text of a magnitude. -/
def magnitude (layout : Layout) (m : Magnitude) : List Char :=
  if m.steps = 0 then '0' :: layout.wholeMark else layout.decimal m.shortest

end Layout

namespace Double

/-- A minus sign in front of a text of a negative number. -/
def signText (negative : Bool) (text : List Char) : List Char :=
  if negative then '-' :: text else text

/-- The text of a double: the fewest digits that read back as the same double. -/
def chars : Double → List Char
  | .nan => ['n', 'a', 'n']
  | .infinite negative => signText negative ['i', 'n', 'f']
  | .finite negative m => signText negative (Layout.plain.magnitude m)

/-- The text of a double. -/
def text (x : Double) : String := .ofList x.chars

end Double

end Calculator
