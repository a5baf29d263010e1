import Calculator.Proofs.Double.Rational
import Calculator.Proofs.Double.Signs
import Calculator.Proofs.Expression.Values
import Mathlib.Data.Rat.Floor
import Mathlib.Data.Sign.Basic
import Mathlib.Tactic.LinearCombination
import Mathlib.Tactic.Linarith

/-!
# The exact remainder

The remainder of two finite doubles is never rounded: the remainder of their steps lies on the grid
of 53-bit numbers (`Magnitude.gap_dvd_mod`), because both numbers lie on the grid of the smaller
one. So it is the rational number that is left of the dividend when the divisor is taken away as
often as the quotient, rounded towards zero, says (`Expr.run_modulo`).
-/

namespace Calculator

/-! ### The grid -/

namespace Magnitude

/-- The remainder of two numbers of steps on the grid lies on the grid. -/
lemma gap_dvd_mod {m n : Nat} (hm : gap m ∣ m) (hn : gap n ∣ n) (hpos : 0 < n) :
    gap (m % n) ∣ m % n := by
  rcases Nat.lt_or_ge m n with hlt | hle
  · rw [Nat.mod_eq_of_lt hlt]
    exact hm
  · have hfine : gap (m % n) ∣ gap n := gap_dvd_gap (Nat.le_of_lt (Nat.mod_lt m hpos))
    have hcoarse : gap n ∣ m := Nat.dvd_trans (gap_dvd_gap hle) hm
    exact Nat.dvd_trans hfine ((Nat.dvd_mod_iff hn).mpr hcoarse)

/-- The remainder of two magnitudes. -/
def rem (a b : Magnitude) (h : b.steps ≠ 0) : Magnitude where
  steps := a.steps % b.steps
  steps_lt := Nat.lt_trans (Nat.mod_lt _ (Nat.pos_of_ne_zero h)) b.steps_lt
  gap_dvd := gap_dvd_mod a.gap_dvd b.gap_dvd (Nat.pos_of_ne_zero h)

@[simp] lemma steps_rem (a b : Magnitude) (h : b.steps ≠ 0) :
    (a.rem b h).steps = a.steps % b.steps := rfl

/-- The remainder of two magnitudes is below the divisor. -/
lemma toRat_rem_lt (a b : Magnitude) (h : b.steps ≠ 0) : (a.rem b h).toRat < b.toRat := by
  have hlt : (a.rem b h).steps < b.steps := Nat.mod_lt _ (Nat.pos_of_ne_zero h)
  exact div_lt_div_of_pos_right (Nat.cast_lt.mpr hlt) cast_one_pos

end Magnitude

/-! ### Rounding towards zero -/

/-- A rational number rounded towards zero. -/
def truncated (q : ℚ) : ℤ := if 0 ≤ q then ⌊q⌋ else ⌈q⌉

/-- A ratio of natural numbers rounded towards zero is their quotient. -/
lemma truncated_div (m n : ℕ) : truncated (m / n) = (m / n : ℕ) := by
  have hnonneg : (0 : ℚ) ≤ m / n := by positivity
  rw [truncated, if_pos hnonneg, Rat.floor_natCast_div_natCast]
  rfl

/-- Rounding towards zero does not depend on the sign. -/
lemma truncated_neg (q : ℚ) : truncated (-q) = -truncated q := by
  rcases lt_trichotomy q 0 with hneg | rfl | hpos
  · rw [truncated, truncated, if_pos (by linarith), if_neg (by linarith), Int.floor_neg]
  · simp [truncated]
  · rw [truncated, truncated, if_neg (by linarith), if_pos (by linarith), Int.ceil_neg]

/-- What is left of a magnitude when another is taken away as often as it is contained. -/
lemma Magnitude.toRat_rem (a b : Magnitude) (h : b.steps ≠ 0) :
    (a.rem b h).toRat = a.toRat - b.toRat * truncated (a.toRat / b.toRat) := by
  have hone : (one : ℚ) ≠ 0 := cast_one_pos.ne'
  have hratio : a.toRat / b.toRat = a.steps / b.steps := div_div_div_cancel_right₀ hone _ _
  have hsteps : ((a.steps % b.steps : ℕ) : ℚ) + b.steps * (a.steps / b.steps : ℕ) = a.steps := by
    exact_mod_cast Nat.mod_add_div a.steps b.steps
  have hrem : (a.rem b h).toRat = ((a.steps % b.steps : ℕ) : ℚ) / one := rfl
  rw [hratio, truncated_div, hrem, toRat, toRat, Int.cast_natCast]
  linear_combination (1 / (one : ℚ)) * hsteps

namespace Double

/-! ### The remainder of doubles -/

/-- The remainder of finite numbers is that of their magnitudes, with the sign of the dividend. -/
lemma finite_mod_finite_eq (s t : Bool) (a : Magnitude) {b : Magnitude} (h : b.steps ≠ 0) :
    finite s a % finite t b = finite s (a.rem b h) := by
  rw [finite_mod_finite, if_neg h]
  exact ofSteps_steps s (a.rem b h)

end Double

/-- The remainder of finite numbers is the dividend less the divisor times the whole quotient. -/
lemma Double.toRat_mod (s t : Bool) (a : Magnitude) {b : Magnitude} (h : b.steps ≠ 0) :
    (finite s a % finite t b).toRat = (finite s a).toRat -
      (finite t b).toRat * truncated ((finite s a).toRat / (finite t b).toRat) := by
  have hrem := a.toRat_rem b h
  rw [finite_mod_finite_eq s t a h]
  cases s with
  | false =>
    cases t with
    | false => exact hrem
    | true =>
      simp only [toRat_finite_false, toRat_finite_true, div_neg, truncated_neg, Int.cast_neg]
      linear_combination hrem
  | true =>
    cases t with
    | false =>
      simp only [toRat_finite_false, toRat_finite_true, ← neg_div', truncated_neg,
        Int.cast_neg]
      linear_combination -hrem
    | true =>
      simp only [toRat_finite_true, neg_div_neg_eq]
      linear_combination -hrem

/-- What the remainder `r` of two numbers is: a finite number, and exactly what is left of `x` when
`y` is taken away as often as their truncated quotient says. So it is smaller than `y`, a whole
multiple of `y` away from `x`, and on the side of `x` unless it is zero. A zero has the sign of `x`
too. -/
structure Double.IsRemainder (x y r : Double) : Prop where
  isFinite : r.isFinite = true
  value : r.toRat = x.toRat - y.toRat * truncated (x.toRat / y.toRat)
  size : |r.toRat| < |y.toRat|
  multiple : ∃ n : ℤ, (x.toRat - r.toRat) / y.toRat = n
  side : r.toRat = 0 ∨ SignType.sign r.toRat = SignType.sign x.toRat
  sign : r.isNegative = x.isNegative

/-- A magnitude other than zero has a remainder with the sign of the dividend. -/
lemma Double.isRemainder_mod (s t : Bool) (a : Magnitude) {b : Magnitude} (h : b.steps ≠ 0) :
    IsRemainder (finite s a) (finite t b) (finite s a % finite t b) := by
  have heq := finite_mod_finite_eq s t a h
  have hvalue := toRat_mod s t a h
  refine ⟨?_, hvalue, ?_, ?_, ?_, ?_⟩
  · rw [heq]
    rfl
  · rw [heq, abs_toRat_finite, abs_toRat_finite]
    exact a.toRat_rem_lt b h
  · have hdivisor : (finite t b).toRat ≠ 0 := by
      have hpos : 0 < |(finite t b).toRat| := by
        rw [abs_toRat_finite]
        exact Magnitude.toRat_pos h
      exact abs_pos.mp hpos
    refine ⟨truncated ((finite s a).toRat / (finite t b).toRat), ?_⟩
    rw [hvalue, sub_sub_cancel, mul_div_cancel_left₀ _ hdivisor]
  · rw [heq]
    by_cases hrem : (a.rem b h).steps = 0
    · left
      rw [← abs_eq_zero, abs_toRat_finite, Magnitude.toRat, hrem, Nat.cast_zero, zero_div]
    · right
      have ha : a.steps ≠ 0 := by
        intro hzero
        exact hrem (by rw [Magnitude.steps_rem, hzero, Nat.zero_mod])
      have hrempos := Magnitude.toRat_pos hrem
      have hapos := Magnitude.toRat_pos ha
      cases s with
      | false => simp [sign_pos hrempos, sign_pos hapos]
      | true => simp [sign_neg (neg_lt_zero.mpr hrempos), sign_neg (neg_lt_zero.mpr hapos)]
  · rw [heq]
    rfl

/-! ### Remainders in expressions -/

namespace Expr

/-- The remainder of two finite numbers, the second of which is not zero, is computed exactly. -/
theorem run_modulo (position : Nat) {left right : Expr} {x y : Double} (hleft : left.run = .ok x)
    (hright : right.run = .ok y) (hx : x.isFinite = true) (hy : y.isFinite = true)
    (hzero : y.isZero = false) :
    ∃ r, (binary .modulo position left right).run = .ok r ∧ Double.IsRemainder x y r := by
  rw [run_eq_value] at hleft hright
  have hrun : (binary .modulo position left right).run = .ok (x % y) := by
    rw [run_eq_value, value, hleft, hright]
    simp only [Operator.apply, hzero, Bool.false_eq_true, if_false]
  refine ⟨x % y, hrun, ?_⟩
  cases x with
  | nan => cases hx
  | infinite s => cases hx
  | finite s a =>
    cases y with
    | nan => cases hy
    | infinite t => cases hy
    | finite t b =>
      have hb : b.steps ≠ 0 := by simpa [Double.isZero] using hzero
      exact Double.isRemainder_mod s t a hb

/-- The largest double below zero and a tenth: the quotient has more than three hundred digits. -/
theorem run_modulo_of_largest :
    let x := Decimal.toDouble true ⟨17976931348623157, 292⟩
    let y := Decimal.toDouble false ⟨1, -1⟩
    x.isFinite = true ∧ y.isFinite = true ∧ y.isZero = false ∧
      ∃ r, (binary .modulo 0 (.literal x) (.literal y)).run = .ok r ∧
        Double.IsRemainder x y r := by
  have hx : (Decimal.toDouble true ⟨17976931348623157, 292⟩).isFinite = true := by decide +kernel
  have hy : (Decimal.toDouble false ⟨1, -1⟩).isFinite = true := by decide +kernel
  have hzero : (Decimal.toDouble false ⟨1, -1⟩).isZero = false := by decide +kernel
  have hliteral : ∀ x, (literal x).run = .ok x := fun x => run_eq_value (literal x)
  exact ⟨hx, hy, hzero, run_modulo 0 (hliteral _) (hliteral _) hx hy hzero⟩

end Expr

end Calculator
