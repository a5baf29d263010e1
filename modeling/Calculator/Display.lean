import Calculator.Decimal.Notation

/-!
# Displayed numbers

On the display a zero has no sign and a whole number below `10 ^ 16` has neither point nor exponent;
every other number is written with the fewest digits that read back.
-/

namespace Calculator

namespace Magnitude

/-- The greatest number of digits of a whole number on the display. -/
def wholeDigits : Nat := 16

/-- The whole number that a magnitude is, if it is one below `10 ^ 16`. -/
def displayedWhole? (m : Magnitude) : Option Nat :=
  if m.steps % one = 0 ∧ m.steps / one < 10 ^ wholeDigits then some (m.steps / one) else none

end Magnitude

namespace Double

/-- The characters of a number on the display. -/
def displayChars : Double → List Char
  | .finite negative m =>
    if m.steps = 0 then ['0']
    else match m.displayedWhole? with
      | some n => signText negative (digits n)
      | none => chars (.finite negative m)
  | x => x.chars

/-- A number on the display. -/
def display (x : Double) : String := .ofList x.displayChars

/-- Both zeros are displayed alike. -/
theorem display_zero (negative : Bool) : (zero negative).display = "0" := by
  simp [display, displayChars, zero]

end Double

end Calculator
