import Calculator.Proofs.Double.Accuracy

/-!
# Bounds of doubles

A bound of the size of a double is carried through sums, products and quotients by calculating with
the bound (`Double.Within`): rounding does not decrease when numbers increase, so a calculation
stays in range where the calculation with the bounds does. A double that is bounded by a rational
number is bounded by the greatest double below it (`Double.within_greatest`), which for a bound out
of range is the largest double (`Double.isGreatest_largest`).
-/

namespace Calculator

namespace Magnitude

/-! ### Grid points from below -/

/-- The greatest grid point that does not exceed a number of steps. -/
def down (n : ℕ) : ℕ := n / gap n * gap n

/-- A grid point that does not exceed a number of steps does not exceed its greatest one. -/
lemma le_down {m n : ℕ} (hm : gap m ∣ m) (h : m ≤ n) : m ≤ down n := by
  rcases gap_eq_one_or n with hone | ⟨hn, hlarge⟩
  · rw [down, hone, Nat.div_one, Nat.mul_one]
    exact h
  · have hpower : 2 ^ n.log2 ≤ n := Nat.log2_self_le hn
    rcases Nat.lt_or_ge m (2 ^ n.log2) with hlt | hge
    · calc m ≤ 2 ^ 52 * gap n := by omega
        _ ≤ n / gap n * gap n := by
          refine Nat.mul_le_mul_right _ ((Nat.le_div_iff_mul_le (gap_pos n)).mpr ?_)
          rw [hlarge]
          exact hpower
    · have hdvd : gap n ∣ m := by
        rw [← gap_two_pow_log2]
        exact Nat.dvd_trans (gap_dvd_gap hge) hm
      obtain ⟨k, rfl⟩ := hdvd
      rw [down, Nat.mul_comm]
      refine Nat.mul_le_mul_right _ ((Nat.le_div_iff_mul_le (gap_pos n)).mpr ?_)
      rw [Nat.mul_comm]
      exact h

/-- The greatest grid point that does not exceed a number of steps lies on its own grid. -/
lemma gap_dvd_down (n : ℕ) : gap (down n) ∣ down n := by
  have hle : down n ≤ n := Nat.div_mul_le_self n (gap n)
  exact Nat.dvd_trans (gap_dvd_gap hle) (Nat.dvd_mul_left _ _)

/-- The greatest magnitude that does not exceed a rational number. -/
def greatest (q : ℚ) : Magnitude where
  steps := down (min (q * one).floor.toNat (limit - 1))
  steps_lt := by
    have hle : down (min (q * one).floor.toNat (limit - 1)) ≤
        min (q * one).floor.toNat (limit - 1) :=
      Nat.div_mul_le_self _ _
    have hlimit : 0 < limit := Nat.two_pow_pos _
    omega
  gap_dvd := gap_dvd_down _

/-- A magnitude that does not exceed a rational number does not exceed its greatest one. -/
lemma toRat_le_greatest {m : Magnitude} {q : ℚ} (h : m.toRat ≤ q) :
    m.toRat ≤ (greatest q).toRat := by
  have hsteps : m.steps ≤ (q * one).floor.toNat := by
    have hmul : (m.steps : ℚ) ≤ q * one := (div_le_iff₀ cast_one_pos).mp h
    have hfloor : (m.steps : ℤ) ≤ (q * one).floor := by
      rw [Rat.le_floor_iff]
      exact_mod_cast hmul
    omega
  have hlimit : m.steps ≤ limit - 1 := Nat.le_sub_one_of_lt m.steps_lt
  have hle : m.steps ≤ (greatest q).steps := le_down m.gap_dvd (Nat.le_min.mpr ⟨hsteps, hlimit⟩)
  exact div_le_div_of_nonneg_right (Nat.cast_le.mpr hle) cast_one_pos.le

end Magnitude

namespace Double

/-! ### Small whole numbers -/

/-- A whole number of at most 53 digits is a double. -/
lemma ofNat_eq {n : ℕ} (h : n < 2 ^ 53) :
    ∃ m : Magnitude, ofNat n = finite false m ∧ m.steps = n * Magnitude.one := by
  have hlt : n * Magnitude.one < 2 ^ (53 + Magnitude.scale) := by
    rw [Magnitude.one, Nat.pow_add]
    exact Nat.mul_lt_mul_of_pos_right h (Nat.two_pow_pos _)
  have hgap : Magnitude.gap (n * Magnitude.one) ∣ n * Magnitude.one := by
    by_cases hzero : n * Magnitude.one = 0
    · rw [hzero]
      exact Nat.dvd_zero _
    · have hlog : (n * Magnitude.one).log2 < 53 + Magnitude.scale := (Nat.log2_lt hzero).mpr hlt
      refine Nat.dvd_trans (Nat.pow_dvd_pow 2 ?_) (Nat.dvd_mul_left _ n)
      simp only [Magnitude.precision]
      omega
  have hlimit : n * Magnitude.one < Magnitude.limit :=
    Nat.lt_of_lt_of_le hlt
      (Nat.pow_le_pow_right (by decide) (by simp only [Magnitude.scale]; decide))
  exact ⟨⟨n * Magnitude.one, hlimit, hgap⟩, ofSteps_steps false ⟨_, hlimit, hgap⟩, rfl⟩

/-- A small whole number is finite. -/
lemma isFinite_ofNat {n : ℕ} (h : n < 2 ^ 53) : (ofNat n).isFinite = true := by
  obtain ⟨m, hm, -⟩ := ofNat_eq h
  rw [hm]
  rfl

/-- A small whole number has its own value. -/
lemma toRat_ofNat {n : ℕ} (h : n < 2 ^ 53) : (ofNat n).toRat = n := by
  obtain ⟨m, hm, hsteps⟩ := ofNat_eq h
  rw [hm, toRat_finite_false, Magnitude.toRat, hsteps, Nat.cast_mul,
    mul_div_cancel_right₀ _ Magnitude.cast_one_pos.ne']

/-! ### Bounded doubles -/

/-- A finite double whose size does not exceed a bound. -/
structure Within (x bound : Double) : Prop where
  isFinite : x.isFinite = true
  abs_le : |x.toRat| ≤ bound.toRat

/-- A bound is not below zero. -/
lemma Within.nonneg {x b : Double} (h : x.Within b) : 0 ≤ b.toRat :=
  (abs_nonneg _).trans h.abs_le

/-- A finite number that is not below zero is a bound of itself. -/
lemma within_self {x : Double} (hx : x.isFinite = true) (h : 0 ≤ x.toRat) : x.Within x :=
  ⟨hx, (abs_of_nonneg h).le⟩

/-- A small whole number is a bound of itself. -/
lemma within_ofNat {n : ℕ} (h : n < 2 ^ 53) : (ofNat n).Within (ofNat n) :=
  within_self (isFinite_ofNat h) ((toRat_ofNat h).symm ▸ n.cast_nonneg)

/-- The opposite number has the same bounds. -/
lemma Within.neg {x b : Double} (h : x.Within b) : (-x).Within b := by
  obtain ⟨s, m, rfl⟩ := exists_eq_finite h.isFinite
  refine ⟨rfl, ?_⟩
  have hle := h.abs_le
  rwa [neg_finite, abs_toRat_finite, ← abs_toRat_finite s]

/-- A double with a value other than zero is finite. -/
lemma isFinite_of_toRat_ne {x : Double} (h : x.toRat ≠ 0) : x.isFinite = true := by
  cases x with
  | nan => exact absurd rfl h
  | infinite s => exact absurd rfl h
  | finite s m => rfl

/-- Terms of a finite sum are finite. -/
lemma isFinite_of_add {x y : Double} (h : (x + y).isFinite = true) :
    x.isFinite = true ∧ y.isFinite = true := by
  cases x with
  | nan => cases h
  | infinite s =>
    cases y with
    | nan => cases h
    | infinite t => cases s <;> cases t <;> cases h
    | finite t b => cases h
  | finite s a =>
    cases y with
    | nan => cases h
    | infinite t => cases h
    | finite t b => exact ⟨rfl, rfl⟩

/-- Factors of a finite product are finite. -/
lemma isFinite_of_mul {x y : Double} (h : (x * y).isFinite = true) :
    x.isFinite = true ∧ y.isFinite = true := by
  cases x with
  | nan => cases h
  | infinite s =>
    cases y with
    | nan => cases h
    | infinite t => cases h
    | finite t b =>
      have hproduct : infinite s * finite t b = nan ∨ infinite s * finite t b = infinite (s != t) :=
        ite_eq_or_eq ..
      rcases hproduct with heq | heq <;> rw [heq] at h <;> cases h
  | finite s a =>
    cases y with
    | nan => cases h
    | infinite t =>
      have hproduct : finite s a * infinite t = nan ∨ finite s a * infinite t = infinite (s != t) :=
        ite_eq_or_eq ..
      rcases hproduct with heq | heq <;> rw [heq] at h <;> cases h
    | finite t b => exact ⟨rfl, rfl⟩

/-- The dividend of a finite quotient is finite. -/
lemma isFinite_of_div {x y : Double} (h : (x / y).isFinite = true) : x.isFinite = true := by
  cases x with
  | nan => cases h
  | infinite s => cases y <;> cases h
  | finite s a => rfl

/-- A sum is bounded by the sum of the bounds. -/
lemma Within.add {x y b c : Double} (hx : x.Within b) (hy : y.Within c)
    (h : (b + c).isFinite = true) : (x + y).Within (b + c) := by
  obtain ⟨hb, hc⟩ := isFinite_of_add h
  have hsum := rounds_add hb hc
  have hnonneg := hsum.nonneg h (add_nonneg hx.nonneg hy.nonneg)
  have hle : |x.toRat + y.toRat| ≤ |b.toRat + c.toRat| := by
    rw [abs_of_nonneg (add_nonneg hx.nonneg hy.nonneg)]
    exact (abs_add_le _ _).trans (add_le_add hx.abs_le hy.abs_le)
  obtain ⟨hfinite, hsize⟩ := (rounds_add hx.isFinite hy.isFinite).mono hsum h hle
  exact ⟨hfinite, hsize.trans_eq (abs_of_nonneg hnonneg)⟩

/-- A product is bounded by the product of the bounds. -/
lemma Within.mul {x y b c : Double} (hx : x.Within b) (hy : y.Within c)
    (h : (b * c).isFinite = true) : (x * y).Within (b * c) := by
  obtain ⟨hb, hc⟩ := isFinite_of_mul h
  have hproduct := rounds_mul hb hc
  have hnonneg := hproduct.nonneg h (mul_nonneg hx.nonneg hy.nonneg)
  have hle : |x.toRat * y.toRat| ≤ |b.toRat * c.toRat| := by
    rw [abs_of_nonneg (mul_nonneg hx.nonneg hy.nonneg), abs_mul]
    exact mul_le_mul hx.abs_le hy.abs_le (abs_nonneg _) hx.nonneg
  obtain ⟨hfinite, hsize⟩ := (rounds_mul hx.isFinite hy.isFinite).mono hproduct h hle
  exact ⟨hfinite, hsize.trans_eq (abs_of_nonneg hnonneg)⟩

/-- A quotient by a positive number is bounded by the quotient of the bound. -/
lemma Within.div {x y b : Double} (hx : x.Within b) (hy : 0 < y.toRat)
    (h : (b / y).isFinite = true) : (x / y).Within (b / y) := by
  have hb := isFinite_of_div h
  have hyfinite := isFinite_of_toRat_ne hy.ne'
  have hquotient := rounds_div hb hyfinite hy.ne'
  have hnonneg := hquotient.nonneg h (div_nonneg hx.nonneg hy.le)
  have hle : |x.toRat / y.toRat| ≤ |b.toRat / y.toRat| := by
    rw [abs_of_nonneg (div_nonneg hx.nonneg hy.le), abs_div, abs_of_pos hy]
    exact div_le_div_of_nonneg_right hx.abs_le hy.le
  obtain ⟨hfinite, hsize⟩ := (rounds_div hx.isFinite hyfinite hy.ne').mono hquotient h hle
  exact ⟨hfinite, hsize.trans_eq (abs_of_nonneg hnonneg)⟩

/-! ### Rounded bounds -/

/-- The double nearest to a rational number that is not below zero. -/
def rounded (q : ℚ) : Double := ofRatio false q.num.toNat q.den

/-- A rational number that is not below zero is rounded to its nearest double. -/
lemma rounds_rounded {q : ℚ} (hq : 0 ≤ q) : Rounds q (rounded q) := by
  have hnum : ((q.num.toNat : ℤ) : ℚ) = q.num := by
    rw [Int.toNat_of_nonneg (Rat.num_nonneg.mpr hq)]
  refine ⟨false, q.num.toNat * Magnitude.one, q.den, q.den_pos, ?_, rfl⟩
  have hone : (Magnitude.one : ℚ) ≠ 0 := Magnitude.cast_one_pos.ne'
  rw [signedRat, if_neg Bool.false_ne_true, Nat.cast_mul, mul_div_right_comm,
    mul_div_cancel_right₀ _ hone, ← Int.cast_natCast q.num.toNat, hnum, Rat.num_div_den]

/-- A number that is bounded by a rational number is rounded to one that is bounded by its nearest
double. -/
lemma Rounds.within {p q : ℚ} {d : Double} (h : Rounds p d) (hle : |p| ≤ q)
    (hq : (rounded q).isFinite = true) : d.Within (rounded q) := by
  have hnonneg : 0 ≤ q := (abs_nonneg p).trans hle
  have hround := rounds_rounded hnonneg
  obtain ⟨hfinite, hsize⟩ := h.mono hround hq (hle.trans_eq (abs_of_nonneg hnonneg).symm)
  exact ⟨hfinite, hsize.trans_eq (abs_of_nonneg (hround.nonneg hq hnonneg))⟩

/-! ### Greatest doubles -/

/-- The greatest double that does not exceed a rational number. -/
def greatest (q : ℚ) : Double := .finite false (.greatest q)

/-- A double that is bounded by a rational number is bounded by its greatest double. -/
lemma within_greatest {x : Double} {q : ℚ} (hx : x.isFinite = true) (h : |x.toRat| ≤ q) :
    x.Within (greatest q) := by
  obtain ⟨s, m, rfl⟩ := exists_eq_finite hx
  refine ⟨rfl, ?_⟩
  rw [abs_toRat_finite] at h ⊢
  exact Magnitude.toRat_le_greatest h

/-- The largest double. -/
def largest : ℚ := (2 ^ 53 - 1) * 2 ^ 971

/-- The largest double is the greatest of all finite ones. -/
lemma isGreatest_largest :
    IsGreatest {q | ∃ x : Double, x.isFinite = true ∧ |x.toRat| = q} largest := by
  let m : Magnitude :=
    ⟨(2 ^ 53 - 1) * 2 ^ 971 * Magnitude.one, by decide +kernel, by decide +kernel⟩
  have hm : m.toRat = largest := by
    have hdigits : ((2 ^ 53 - 1 : ℕ) : ℚ) = 2 ^ 53 - 1 := by norm_num
    rw [Magnitude.toRat, Nat.cast_mul, Nat.cast_mul, hdigits, Nat.cast_pow, Nat.cast_ofNat,
      mul_div_cancel_right₀ _ Magnitude.cast_one_pos.ne', largest]
  constructor
  · refine ⟨finite false m, rfl, ?_⟩
    rw [abs_toRat_finite, hm]
  · rintro _ ⟨x, hx, rfl⟩
    obtain ⟨s, n, rfl⟩ := exists_eq_finite hx
    have htop : Magnitude.down (Magnitude.limit - 1) = m.steps := by decide +kernel
    have hle : n.steps ≤ m.steps := by
      rw [← htop]
      exact Magnitude.le_down n.gap_dvd (Nat.le_sub_one_of_lt n.steps_lt)
    rw [abs_toRat_finite, ← hm]
    exact div_le_div_of_nonneg_right (Nat.cast_le.mpr hle) Magnitude.cast_one_pos.le

end Double

end Calculator
