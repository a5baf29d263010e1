import Calculator.Proofs.Double.Rounding
import Mathlib.Algebra.Order.Field.Rat
import Mathlib.Tactic.Lemma

/-!
# Rational values of doubles

A finite double is a rational number: its steps with their sign, each of size `2 ^ -1074`
(`Double.toRat`). Only the zeros have the value zero.
-/

namespace Calculator

namespace Magnitude

/-- The rational number that a magnitude is. -/
def toRat (m : Magnitude) : ℚ := m.steps / one

/-- There is a step in the number one. -/
lemma cast_one_pos : (0 : ℚ) < one := Nat.cast_pos.mpr one_pos

/-- A magnitude is not negative. -/
lemma toRat_nonneg (m : Magnitude) : 0 ≤ m.toRat :=
  div_nonneg m.steps.cast_nonneg one.cast_nonneg

/-- A magnitude with a step is positive. -/
lemma toRat_pos {m : Magnitude} (h : m.steps ≠ 0) : 0 < m.toRat :=
  div_pos (Nat.cast_pos.mpr (Nat.pos_of_ne_zero h)) cast_one_pos

end Magnitude

namespace Double

/-- The rational number that a finite double is. -/
def toRat : Double → ℚ
  | .finite negative m => if negative then -m.toRat else m.toRat
  | _ => 0

/-- A double without a minus sign is its magnitude. -/
@[simp] lemma toRat_finite_false (m : Magnitude) : (finite false m).toRat = m.toRat := rfl

/-- A double with a minus sign is its magnitude on the other side of zero. -/
@[simp] lemma toRat_finite_true (m : Magnitude) : (finite true m).toRat = -m.toRat := rfl

/-- The size of a finite double is that of its magnitude. -/
lemma abs_toRat_finite (negative : Bool) (m : Magnitude) :
    |(finite negative m).toRat| = m.toRat := by
  cases negative with
  | false => exact abs_of_nonneg m.toRat_nonneg
  | true => exact (abs_neg _).trans (abs_of_nonneg m.toRat_nonneg)

end Double

end Calculator
