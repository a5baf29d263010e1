import Calculator.Double
import Mathlib.Tactic.Lemma

/-!
# Rounding to the nearest magnitude

The grid point nearest to a ratio depends on the ratio alone (`Magnitude.nearest_congr`), it does
not cross a power of two (`Magnitude.two_pow_le_nearest`, `Magnitude.nearest_le_two_pow`), and it
does not decrease when the ratio increases (`Magnitude.nearest_mono`). A ratio from `2 ^ 1024` on is
rounded to an infinity, and one below half a step to zero.
-/

namespace Calculator

namespace Magnitude

/-! ### Ratios -/

/-- A rounded quotient depends on the ratio alone. -/
lemma divNearest_mul_mul (num den : Nat) {k : Nat} (hk : 0 < k) :
    divNearest (num * k) (den * k) = divNearest num den := by
  have hlt : 2 * (num % den * k) < den * k ↔ 2 * (num % den) < den := by
    rw [← Nat.mul_assoc]
    exact Nat.mul_lt_mul_right hk
  have heq : 2 * (num % den * k) = den * k ↔ 2 * (num % den) = den := by
    rw [← Nat.mul_assoc]
    exact Nat.mul_left_inj (Nat.ne_of_gt hk)
  simp only [divNearest, Nat.mul_div_mul_right _ _ hk, Nat.mul_mod_mul_right, hlt, heq]

/-- A common factor does not change the nearest grid point. -/
lemma nearest_mul_mul (num den : Nat) {k : Nat} (hk : 0 < k) :
    nearest (num * k) (den * k) = nearest num den := by
  have hden : den * k * gap (num / den) = den * gap (num / den) * k := by
    rw [Nat.mul_assoc, Nat.mul_comm k, ← Nat.mul_assoc]
  simp only [nearest, Nat.mul_div_mul_right _ _ hk, hden, divNearest_mul_mul _ _ hk]

/-- The nearest grid point depends on the ratio alone. -/
theorem nearest_congr {num den num' den' : Nat} (hden : 0 < den) (hden' : 0 < den')
    (h : num * den' = num' * den) : nearest num den = nearest num' den' :=
  calc nearest num den = nearest (num * den') (den * den') := (nearest_mul_mul num den hden').symm
    _ = nearest (num' * den) (den' * den) := by rw [h, Nat.mul_comm den]
    _ = nearest num' den' := nearest_mul_mul num' den' hden

/-! ### Bounds -/

/-- There is a step in the number one. -/
lemma one_pos : 0 < one := Nat.two_pow_pos _

/-- The spacing is at most the largest power of two below. -/
lemma gap_exponent_le (q : Nat) : q.log2 + 1 - precision ≤ q.log2 := by
  simp only [precision]
  omega

/-- The spacing of a number of steps is a multiple of that of a smaller number. -/
lemma gap_dvd_gap {m n : Nat} (h : m ≤ n) : gap m ∣ gap n := by
  have hlog : m.log2 ≤ n.log2 := by
    by_cases hm : m = 0
    · simp [hm]
    · have hn : n ≠ 0 := by omega
      exact (Nat.le_log2 hn).mpr (Nat.le_trans (Nat.log2_self_le hm) h)
  exact Nat.pow_dvd_pow 2 (by omega)

/-- A ratio from a power of two on is not rounded below it. -/
theorem two_pow_le_nearest {num den k : Nat} (h : 2 ^ k ≤ num / den) :
    2 ^ k ≤ nearest num den := by
  have hq : num / den ≠ 0 := by
    have hpos := Nat.two_pow_pos k
    omega
  have hk : k ≤ (num / den).log2 := (Nat.le_log2 hq).mpr h
  have hgap := gap_exponent_le (num / den)
  have hlow : 2 ^ ((num / den).log2 - ((num / den).log2 + 1 - precision)) ≤
      num / (den * gap (num / den)) := by
    rw [← Nat.div_div_eq_div_mul, gap, Nat.le_div_iff_mul_le (Nat.two_pow_pos _), ← Nat.pow_add,
      Nat.sub_add_cancel hgap]
    exact Nat.log2_self_le hq
  calc 2 ^ k ≤ 2 ^ (num / den).log2 := Nat.pow_le_pow_right (by decide) hk
    _ = 2 ^ ((num / den).log2 - ((num / den).log2 + 1 - precision)) * gap (num / den) := by
      rw [gap, ← Nat.pow_add, Nat.sub_add_cancel hgap]
    _ ≤ nearest num den :=
      Nat.mul_le_mul_right _ (Nat.le_trans hlow (le_divNearest _ _))

/-- A ratio below a power of two is not rounded above it. -/
theorem nearest_le_two_pow {num den k : Nat} (h : num / den < 2 ^ k) :
    nearest num den ≤ 2 ^ k := by
  have hgap : (num / den).log2 + 1 - precision ≤ k := by
    have hlog : num / den ≠ 0 → (num / den).log2 < k := fun hq => (Nat.log2_lt hq).mpr h
    by_cases hq : num / den = 0
    · simp [hq, precision]
    · have hle := gap_exponent_le (num / den)
      have hlt := hlog hq
      omega
  have hhigh : num / (den * gap (num / den)) <
      2 ^ (k - ((num / den).log2 + 1 - precision)) := by
    rw [← Nat.div_div_eq_div_mul, gap, Nat.div_lt_iff_lt_mul (Nat.two_pow_pos _), ← Nat.pow_add,
      Nat.sub_add_cancel hgap]
    exact h
  have hround := divNearest_le num (den * gap (num / den))
  calc nearest num den
      ≤ 2 ^ (k - ((num / den).log2 + 1 - precision)) * gap (num / den) :=
        Nat.mul_le_mul_right _ (by omega)
    _ = 2 ^ k := by rw [gap, ← Nat.pow_add, Nat.sub_add_cancel hgap]

/-- A ratio from one on is less than twice the nearest grid point. -/
lemma lt_two_mul_nearest {num den : Nat} (hden : 0 < den) (h : den ≤ num) :
    num < 2 * (nearest num den * den) := by
  have hq : num / den ≠ 0 := Nat.ne_of_gt (Nat.div_pos h hden)
  have hlow : 2 ^ (num / den).log2 ≤ nearest num den := two_pow_le_nearest (Nat.log2_self_le hq)
  have hhigh : num / den < 2 ^ ((num / den).log2 + 1) := Nat.lt_log2_self
  have hdouble : num / den < 2 * nearest num den := by
    rw [Nat.pow_succ] at hhigh
    omega
  rw [← Nat.mul_assoc]
  exact Nat.lt_mul_of_div_lt hdouble hden

/-- Less than half a step is rounded to nothing. -/
lemma nearest_eq_zero {num den : Nat} (h : 2 * num < den) : nearest num den = 0 := by
  have hlt : num < den := by omega
  have hgap : gap 0 = 1 := rfl
  simp [nearest, Nat.div_eq_of_lt hlt, hgap, divNearest, Nat.mod_eq_of_lt hlt, h]

/-! ### Monotony -/

/-- A rounded quotient does not decrease when the dividend increases. -/
lemma divNearest_mono {num num' : Nat} (den : Nat) (h : num ≤ num') :
    divNearest num den ≤ divNearest num' den := by
  have hquotient : num / den ≤ num' / den := Nat.div_le_div_right h
  rcases Nat.lt_or_eq_of_le hquotient with hlt | heq
  · calc divNearest num den ≤ num / den + 1 := divNearest_le num den
      _ ≤ num' / den := hlt
      _ ≤ divNearest num' den := le_divNearest num' den
  · have hrest : num % den ≤ num' % den := by
      have hnum := Nat.div_add_mod num den
      have hnum' := Nat.div_add_mod num' den
      rw [heq] at hnum
      omega
    simp only [divNearest, heq]
    split <;> split <;> omega

/-- The nearest grid point does not decrease when the number of steps increases. -/
lemma nearest_le_nearest {num num' : Nat} (den : Nat) (h : num ≤ num') :
    nearest num den ≤ nearest num' den := by
  have hquotient : num / den ≤ num' / den := Nat.div_le_div_right h
  by_cases hgap : gap (num / den) = gap (num' / den)
  · simp only [nearest, hgap]
    exact Nat.mul_le_mul_right _ (divNearest_mono _ h)
  · -- A power of two lies between the two ratios.
    have hq' : num' / den ≠ 0 := by
      intro hzero
      rw [hzero] at hquotient
      exact hgap (by rw [hzero, Nat.le_zero.mp hquotient])
    have hlog : (num / den).log2 ≠ (num' / den).log2 := by
      intro heq
      exact hgap (by rw [gap, gap, heq])
    have hlt : num / den < 2 ^ (num' / den).log2 := by
      refine Nat.lt_of_not_le fun hge => ?_
      have hq : num / den ≠ 0 := by
        have hpos := Nat.two_pow_pos (num' / den).log2
        omega
      have hupper : num / den < 2 ^ ((num' / den).log2 + 1) :=
        Nat.lt_of_le_of_lt hquotient Nat.lt_log2_self
      have hlow := (Nat.le_log2 hq).mpr hge
      have hhigh := (Nat.log2_lt hq).mpr hupper
      omega
    exact Nat.le_trans (nearest_le_two_pow hlt) (two_pow_le_nearest (Nat.log2_self_le hq'))

/-- The nearest grid point does not decrease when the ratio increases. -/
theorem nearest_mono {num den num' den' : Nat} (hden : 0 < den) (hden' : 0 < den')
    (h : num * den' ≤ num' * den) : nearest num den ≤ nearest num' den' :=
  calc nearest num den = nearest (num * den') (den * den') := (nearest_mul_mul num den hden').symm
    _ ≤ nearest (num' * den) (den * den') := nearest_le_nearest _ h
    _ = nearest (num' * den) (den' * den) := by rw [Nat.mul_comm den]
    _ = nearest num' den' := nearest_mul_mul num' den' hden

end Magnitude

namespace Double

/-! ### Doubles -/

/-- A rounded double depends on the ratio alone. -/
lemma ofSteps_congr (negative : Bool) {num den num' den' : Nat} (hden : 0 < den) (hden' : 0 < den')
    (h : num * den' = num' * den) : ofSteps negative num den = ofSteps negative num' den' := by
  simp only [ofSteps, Magnitude.nearest_congr hden hden' h]

/-- A rounded double depends on the ratio alone. -/
theorem ofRatio_congr (negative : Bool) {num den num' den' : Nat} (hden : 0 < den)
    (hden' : 0 < den') (h : num * den' = num' * den) :
    ofRatio negative num den = ofRatio negative num' den' := by
  refine ofSteps_congr negative hden hden' ?_
  rw [Nat.mul_right_comm, h, Nat.mul_right_comm]

/-- A ratio from `2 ^ 1024` on is an infinity. -/
lemma ofSteps_of_limit_le (negative : Bool) {num den : Nat} (h : Magnitude.limit ≤ num / den) :
    ofSteps negative num den = .infinite negative := by
  have hle : Magnitude.limit ≤ Magnitude.nearest num den := Magnitude.two_pow_le_nearest h
  rw [ofSteps, dif_neg (Nat.not_lt.mpr hle)]

/-- Less than half a step is a zero. -/
lemma ofSteps_of_small (negative : Bool) {num den : Nat} (h : 2 * num < den) :
    ofSteps negative num den = zero negative := by
  have hzero := Magnitude.nearest_eq_zero h
  have hlimit : Magnitude.nearest num den < Magnitude.limit := by
    rw [hzero]
    exact Nat.two_pow_pos _
  rw [ofSteps, dif_pos hlimit, zero]
  congr 1
  exact Magnitude.ext hzero

end Double

end Calculator
