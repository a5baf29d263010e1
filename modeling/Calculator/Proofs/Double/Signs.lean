import Calculator.Double.Arithmetic
import Mathlib.Tactic.Lemma

/-!
# Signs of doubles

Product, quotient and remainder take the opposite sign when the first number does (`Double.neg_mul`,
`Double.neg_div`, `Double.neg_mod`). A sum does so only up to the sign of a zero: a zero that is
added leaves a number as it is, but the other zero may come out (`Double.like_zero_add`). Numbers
that differ in this at most are alike (`Double.Like`), and sums of them are (`Double.Like.add`).
-/

namespace Calculator

namespace Double

/-! ### Opposite numbers -/

/-- A rounded number takes the opposite sign alone. -/
lemma ofSteps_not (negative : Bool) (num den : Nat) :
    ofSteps (!negative) num den = -ofSteps negative num den := by
  unfold ofSteps
  split <;> rfl

/-- A product of finite numbers is rounded once. -/
lemma finite_mul_finite (s t : Bool) (a b : Magnitude) :
    finite s a * finite t b = ofSteps (s != t) (a.steps * b.steps) Magnitude.one := by
  have hmul : finite s a * finite t b = mul (finite s a) (finite t b) := rfl
  rw [hmul, mul]

/-- A quotient of finite numbers is rounded once, unless the divisor is zero. -/
lemma finite_div_finite (s t : Bool) (a b : Magnitude) :
    finite s a / finite t b =
      if b.steps = 0 then if a.steps = 0 then nan else infinite (s != t)
      else ofSteps (s != t) (a.steps * Magnitude.one) b.steps := rfl

/-- A remainder of finite numbers has the sign of the dividend. -/
lemma finite_mod_finite (s t : Bool) (a b : Magnitude) :
    finite s a % finite t b = if b.steps = 0 then nan else ofSteps s (a.steps % b.steps) 1 := rfl

/-- A finite number takes the opposite sign. -/
lemma neg_finite (s : Bool) (m : Magnitude) : -finite s m = finite (!s) m := rfl

/-- A condition that does not depend on a number may be asked before its sign is changed. -/
lemma neg_ite (p : Prop) [Decidable p] (x y : Double) :
    -(if p then x else y) = if p then -x else -y := apply_ite _ p x y

/-- The product of the opposite number is the opposite product. -/
lemma neg_mul (x y : Double) : -x * y = -(x * y) := by
  have hsign : ∀ s t : Bool, infinite ((!s) != t) = -infinite (s != t) := by decide
  cases x with
  | nan => rfl
  | infinite s =>
    cases y with
    | nan => rfl
    | infinite t => exact hsign s t
    | finite t b =>
      have hzero := neg_ite (b.steps = 0) nan (infinite (s != t))
      rw [← hsign] at hzero
      exact hzero.symm
  | finite s a =>
    cases y with
    | nan => rfl
    | infinite t =>
      have hzero := neg_ite (a.steps = 0) nan (infinite (s != t))
      rw [← hsign] at hzero
      exact hzero.symm
    | finite t b => rw [neg_finite, finite_mul_finite, finite_mul_finite, Bool.not_bne, ofSteps_not]

/-- The quotient of the opposite number is the opposite quotient. -/
lemma neg_div (x y : Double) : -x / y = -(x / y) := by
  have hsign : ∀ s t : Bool, infinite ((!s) != t) = -infinite (s != t) := by decide
  cases x with
  | nan => rfl
  | infinite s =>
    cases y with
    | nan => rfl
    | infinite t => rfl
    | finite t b => exact hsign s t
  | finite s a =>
    cases y with
    | nan => rfl
    | infinite t => exact congrArg zero (Bool.not_bne s t)
    | finite t b =>
      rw [neg_finite, finite_div_finite, finite_div_finite, neg_ite, neg_ite, hsign, Bool.not_bne,
        ofSteps_not]
      rfl

/-- The remainder of the opposite number is the opposite remainder. -/
lemma neg_mod (x y : Double) : -x % y = -(x % y) := by
  cases x with
  | nan => rfl
  | infinite s => rfl
  | finite s a =>
    cases y with
    | nan => rfl
    | infinite t => rfl
    | finite t b =>
      rw [neg_finite, finite_mod_finite, finite_mod_finite, neg_ite, ofSteps_not]
      rfl

/-! ### Zeros of either sign -/

/-- Numbers that are the same, or zeros of whatever signs. -/
def Like (x y : Double) : Prop := x = y ∨ x.isZero = true ∧ y.isZero = true

/-- A number is like itself. -/
lemma Like.refl (x : Double) : x.Like x := Or.inl rfl

/-- The order of the two does not matter. -/
lemma Like.symm {x y : Double} (h : x.Like y) : y.Like x := h.imp Eq.symm And.symm

/-- What is like a number that is like another one is like it. -/
lemma Like.trans {x y z : Double} (h : x.Like y) (h' : y.Like z) : x.Like z := by
  rcases h with rfl | ⟨hx, hy⟩
  · exact h'
  · rcases h' with rfl | ⟨-, hz⟩
    · exact Or.inr ⟨hx, hy⟩
    · exact Or.inr ⟨hx, hz⟩

/-- A zero is a zero of some sign. -/
lemma exists_eq_zero {x : Double} (h : x.isZero = true) : ∃ negative, x = zero negative := by
  cases x with
  | nan => cases h
  | infinite negative => cases h
  | finite negative m =>
    have hsteps : m.steps = 0 := by simpa only [isZero, decide_eq_true_eq] using h
    exact ⟨negative, congrArg _ (Magnitude.ext hsteps)⟩

/-- A number of signed steps is the number with that sign, but a zero may have another one. -/
lemma like_ofSigned (zeroNegative negative : Bool) (m : Magnitude) :
    (ofSigned zeroNegative (signed negative m.steps)).Like (finite negative m) := by
  by_cases hzero : m.steps = 0
  · have htotal : signed negative m.steps = 0 := by
      rw [hzero]
      cases negative <;> rfl
    rw [ofSigned, if_pos htotal]
    exact Or.inr ⟨rfl, decide_eq_true hzero⟩
  · have htotal : signed negative m.steps ≠ 0 := by
      cases negative <;> simpa [signed] using hzero
    have hsign : decide (signed negative m.steps < 0) = negative := by
      cases negative with
      | false => exact decide_eq_false (Int.not_lt.mpr (Int.natCast_nonneg _))
      | true =>
        have hpos : (0 : Int) < m.steps := Int.natCast_pos.mpr (Nat.pos_of_ne_zero hzero)
        exact decide_eq_true (Int.neg_neg_of_pos hpos)
    have hsize : (signed negative m.steps).natAbs = m.steps := by
      cases negative with
      | false => exact Int.natAbs_natCast _
      | true => exact (Int.natAbs_neg _).trans (Int.natAbs_natCast _)
    rw [ofSigned, if_neg htotal, hsign, hsize, ofSteps_steps]
    exact .refl _

/-- A zero in front of a sum leaves the number like it was. -/
lemma like_zero_add (negative : Bool) (x : Double) : (zero negative + x).Like x := by
  cases x with
  | nan => exact .refl _
  | infinite s => exact .refl _
  | finite s m =>
    have htotal : signed negative 0 + signed s m.steps = signed s m.steps := by
      cases negative <;> exact Int.zero_add _
    change (ofSigned (negative && s) (signed negative 0 + signed s m.steps)).Like _
    rw [htotal]
    exact like_ofSigned _ s m

/-- Sums of numbers that are alike are alike. -/
lemma Like.add {x x' : Double} (h : x.Like x') (y : Double) : (x + y).Like (x' + y) := by
  rcases h with rfl | ⟨hx, hx'⟩
  · exact .refl _
  · obtain ⟨s, rfl⟩ := exists_eq_zero hx
    obtain ⟨t, rfl⟩ := exists_eq_zero hx'
    exact (like_zero_add s y).trans (like_zero_add t y).symm

/-- Numbers that are alike are both finite or both are not. -/
lemma Like.isFinite_eq {x y : Double} (h : x.Like y) : x.isFinite = y.isFinite := by
  rcases h with rfl | ⟨hx, hy⟩
  · rfl
  · obtain ⟨s, rfl⟩ := exists_eq_zero hx
    obtain ⟨t, rfl⟩ := exists_eq_zero hy
    rfl

/-- Finite numbers that are alike are equal. -/
lemma Like.equal {x y : Double} (h : x.Like y) (hfinite : x.isFinite = true) :
    x.equal y = true := by
  rcases h with rfl | ⟨hx, hy⟩
  · cases x with
    | nan => cases hfinite
    | infinite s => cases hfinite
    | finite s m => simp [Double.equal]
  · obtain ⟨s, rfl⟩ := exists_eq_zero hx
    obtain ⟨t, rfl⟩ := exists_eq_zero hy
    simp [Double.equal, zero]

end Double

end Calculator
