import Calculator.Proofs.Double.Rational
import Calculator.Proofs.Double.Signs
import Mathlib.Data.Rat.Floor
import Mathlib.Tactic.Linarith
import Mathlib.Tactic.FieldSimp
import Mathlib.Tactic.Ring

/-!
# The accuracy of arithmetic

Sums, products and quotients of finite doubles are the doubles nearest to the exact results
(`Double.Rounds`). So no double is nearer to the exact result (`Double.Rounds.nearest`), the error
is at most half of a unit in the last place (`Double.Rounds.error`), and a larger exact result is
rounded to a larger double (`Double.Rounds.mono`).

Bounds of the size of doubles (`Double.Within`) are carried through a calculation by calculating
with the bounds.
-/

namespace Calculator

namespace Magnitude

/-! ### The nearest grid point -/

/-- A rounded quotient is at most a half away from the quotient. -/
lemma abs_divNearest_sub_le (num : ℕ) {den : ℕ} (hden : 0 < den) :
    |(divNearest num den : ℚ) - num / den| ≤ 1 / 2 := by
  have hpos : (0 : ℚ) < den := Nat.cast_pos.mpr hden
  have hsplit : (num : ℚ) = den * (num / den : ℕ) + (num % den : ℕ) := by
    exact_mod_cast (Nat.div_add_mod num den).symm
  have hratio : (num : ℚ) / den = (num / den : ℕ) + (num % den : ℕ) / den := by
    rw [div_eq_iff hpos.ne', add_mul, div_mul_cancel₀ _ hpos.ne', mul_comm, ← hsplit]
  have hrest : (0 : ℚ) ≤ (num % den : ℕ) / den := by positivity
  have hlt : ((num % den : ℕ) : ℚ) / den < 1 := by
    rw [div_lt_one hpos]
    exact Nat.cast_lt.mpr (Nat.mod_lt num hden)
  rw [hratio, abs_le]
  unfold divNearest
  dsimp only
  split
  · next hdown =>
    have hle : 2 * (num % den) ≤ den := by omega
    have hhalf : ((num % den : ℕ) : ℚ) / den ≤ 1 / 2 := by
      rw [div_le_iff₀ hpos]
      have hcast : (2 : ℚ) * (num % den : ℕ) ≤ den := by exact_mod_cast hle
      linarith
    constructor <;> linarith
  · next hup =>
    have hle : den ≤ 2 * (num % den) := by omega
    have hhalf : 1 / 2 ≤ ((num % den : ℕ) : ℚ) / den := by
      rw [le_div_iff₀ hpos]
      have hcast : (den : ℚ) ≤ 2 * (num % den : ℕ) := by exact_mod_cast hle
      linarith
    push_cast
    constructor <;> linarith

/-- No natural number is nearer to a quotient than the rounded one. -/
lemma abs_divNearest_sub_le_abs (num : ℕ) {den : ℕ} (hden : 0 < den) (j : ℕ) :
    |(divNearest num den : ℚ) - num / den| ≤ |(j : ℚ) - num / den| := by
  by_cases heq : divNearest num den = j
  · rw [heq]
  · have hapart : (1 : ℚ) ≤ |(divNearest num den : ℚ) - j| := by
      have hint : (1 : ℤ) ≤ |(divNearest num den : ℤ) - j| :=
        Int.one_le_abs (sub_ne_zero.mpr (by exact_mod_cast heq))
      exact_mod_cast hint
    have hround := abs_divNearest_sub_le num hden
    have htriangle := abs_sub_le (divNearest num den : ℚ) (num / den) j
    rw [abs_sub_comm ((num : ℚ) / den)] at htriangle
    linarith

/-- There is a step between neighbouring grid points. -/
lemma gap_pos (q : ℕ) : 0 < gap q := Nat.two_pow_pos _

/-- The distance of a multiple of the spacing from a ratio is that of the multiplier from the ratio
in units of the spacing. -/
lemma gap_mul_sub (num : ℕ) {den : ℕ} (hden : 0 < den) (j : ℕ) :
    |((j * gap (num / den) : ℕ) : ℚ) - num / den| =
      gap (num / den) * |(j : ℚ) - num / (den * gap (num / den) : ℕ)| := by
  have hgap : (0 : ℚ) < gap (num / den) := Nat.cast_pos.mpr (gap_pos _)
  have hpos : (0 : ℚ) < den := Nat.cast_pos.mpr hden
  have hscale : ((j * gap (num / den) : ℕ) : ℚ) - num / den =
      gap (num / den) * (j - num / (den * gap (num / den) : ℕ)) := by
    push_cast
    field_simp
  rw [hscale, abs_mul, abs_of_pos hgap]

/-- The nearest grid point is at most half of the spacing away from the ratio. -/
lemma abs_nearest_sub_le (num : ℕ) {den : ℕ} (hden : 0 < den) :
    |(nearest num den : ℚ) - num / den| ≤ gap (num / den) / 2 := by
  have hround := abs_divNearest_sub_le num (Nat.mul_pos hden (gap_pos (num / den)))
  rw [nearest, gap_mul_sub num hden]
  calc (gap (num / den) : ℚ) * _ ≤ gap (num / den) * (1 / 2) :=
        mul_le_mul_of_nonneg_left hround (Nat.cast_nonneg _)
    _ = gap (num / den) / 2 := by ring

/-- The spacing is one, or the largest power of two below takes 53 digits of the spacing. -/
lemma gap_eq_one_or (q : ℕ) : gap q = 1 ∨ q ≠ 0 ∧ 2 ^ 52 * gap q = 2 ^ q.log2 := by
  by_cases hlog : q.log2 < 52
  · left
    rw [gap, show q.log2 + 1 - precision = 0 by simp only [precision]; omega, Nat.pow_zero]
  · right
    refine ⟨fun hzero => hlog (by rw [hzero]; decide), ?_⟩
    rw [gap, ← Nat.pow_add]
    congr 1
    simp only [precision]
    omega

/-- The spacing depends on the largest power of two below. -/
lemma gap_two_pow_log2 (q : ℕ) : gap (2 ^ q.log2) = gap q := by
  rw [gap, gap, Nat.log2_two_pow]

/-- Half of the spacing is half a step, or it is small compared with the ratio. -/
lemma half_gap_le (num : ℕ) {den : ℕ} (hden : 0 < den) :
    (gap (num / den) : ℚ) / 2 ≤ max ((num / den : ℚ) / 2 ^ 53) (1 / 2) := by
  rcases gap_eq_one_or (num / den) with hone | ⟨hq, hlarge⟩
  · rw [hone, Nat.cast_one]
    exact le_max_right _ _
  · refine le_max_of_le_left ?_
    have hle : (2 ^ 52 * gap (num / den)) * den ≤ num := by
      rw [hlarge]
      exact (Nat.le_div_iff_mul_le hden).mp (Nat.log2_self_le hq)
    have hcast : ((2 : ℚ) ^ 52 * gap (num / den)) * den ≤ num := by exact_mod_cast hle
    have hpos : (0 : ℚ) < den := Nat.cast_pos.mpr hden
    rw [div_div, le_div_iff₀ (by positivity)]
    linarith

/-- No multiple of the spacing is nearer than the nearest grid point. -/
lemma abs_nearest_sub_le_of_dvd (num : ℕ) {den n : ℕ} (hden : 0 < den) (hn : gap (num / den) ∣ n) :
    |(nearest num den : ℚ) - num / den| ≤ |(n : ℚ) - num / den| := by
  obtain ⟨j, rfl⟩ := hn
  rw [nearest, Nat.mul_comm _ j, gap_mul_sub num hden, gap_mul_sub num hden]
  exact mul_le_mul_of_nonneg_left
    (abs_divNearest_sub_le_abs num (Nat.mul_pos hden (gap_pos (num / den))) j) (Nat.cast_nonneg _)

/-- No grid point is nearer than the nearest one. -/
lemma abs_nearest_sub_le_abs (num : ℕ) {den n : ℕ} (hden : 0 < den) (hn : gap n ∣ n) :
    |(nearest num den : ℚ) - num / den| ≤ |(n : ℚ) - num / den| := by
  by_cases hdvd : gap (num / den) ∣ n
  · exact abs_nearest_sub_le_of_dvd num hden hdvd
  · -- A point of a finer grid lies below the largest power of two in the ratio, which is nearer.
    rcases gap_eq_one_or (num / den) with hone | ⟨hq, hlarge⟩
    · exact absurd (hone ▸ Nat.one_dvd n) hdvd
    · have hbelow : n ≤ 2 ^ (num / den).log2 := by
        refine Nat.le_of_not_le fun hle => hdvd ?_
        rw [← gap_two_pow_log2]
        exact Nat.dvd_trans (gap_dvd_gap hle) hn
      have hratio : ((2 ^ (num / den).log2 : ℕ) : ℚ) ≤ num / den := by
        have hpos : (0 : ℚ) < den := Nat.cast_pos.mpr hden
        rw [le_div_iff₀ hpos]
        exact_mod_cast (Nat.le_div_iff_mul_le hden).mp (Nat.log2_self_le hq)
      have hcast : (n : ℚ) ≤ (2 ^ (num / den).log2 : ℕ) := Nat.cast_le.mpr hbelow
      calc |(nearest num den : ℚ) - num / den|
          ≤ |((2 ^ (num / den).log2 : ℕ) : ℚ) - num / den| :=
            abs_nearest_sub_le_of_dvd num hden (Dvd.intro_left _ hlarge)
        _ ≤ |(n : ℚ) - num / den| := by
          rw [abs_of_nonpos (sub_nonpos.mpr hratio), abs_of_nonpos (by linarith)]
          linarith

end Magnitude

namespace Double

/-! ### Rounded numbers -/

/-- A rational number of the given sign and size. -/
def signedRat (negative : Bool) (size : ℚ) : ℚ := if negative then -size else size

/-- The size of a rational number does not depend on its sign. -/
lemma abs_signedRat (negative : Bool) (size : ℚ) : |signedRat negative size| = |size| := by
  cases negative with
  | false => rfl
  | true => exact abs_neg size

/-- The distance of numbers with the same sign does not depend on the sign. -/
lemma signedRat_sub (negative : Bool) (p q : ℚ) :
    signedRat negative p - signedRat negative q = signedRat negative (p - q) := by
  cases negative with
  | false => rfl
  | true => exact (neg_sub' p q).symm

/-- A finite double is its magnitude with its sign. -/
lemma toRat_finite (negative : Bool) (m : Magnitude) :
    (finite negative m).toRat = signedRat negative m.toRat := rfl

/-- A double is what a rational number is rounded to. -/
def Rounds (q : ℚ) (d : Double) : Prop :=
  ∃ (negative : Bool) (num den : ℕ), 0 < den ∧
    q = signedRat negative (num / den / Magnitude.one) ∧ ofSteps negative num den = d

/-- A number that is rounded in range has the nearest number of steps. -/
lemma toRat_ofSteps {negative : Bool} {num den : ℕ}
    (h : (ofSteps negative num den).isFinite = true) :
    Magnitude.nearest num den < Magnitude.limit ∧
      (ofSteps negative num den).toRat =
        signedRat negative (Magnitude.nearest num den / Magnitude.one) := by
  unfold ofSteps at h ⊢
  split
  · next hlt => exact ⟨hlt, rfl⟩
  · next hge =>
    rw [dif_neg hge] at h
    cases h

/-- A finite double is its own steps. -/
lemma exists_eq_finite {x : Double} (h : x.isFinite = true) :
    ∃ negative m, x = finite negative m := by
  cases x with
  | nan => cases h
  | infinite s => cases h
  | finite s m => exact ⟨s, m, rfl⟩

/-- A ratio of steps is not below zero. -/
lemma steps_ratio_nonneg (num den : ℕ) : (0 : ℚ) ≤ num / den / Magnitude.one :=
  div_nonneg (div_nonneg num.cast_nonneg den.cast_nonneg) Magnitude.cast_one_pos.le

/-- No double is nearer to a number than the one to which it is rounded. -/
lemma Rounds.nearest {q : ℚ} {d z : Double} (h : Rounds q d) (hd : d.isFinite = true)
    (hz : z.isFinite = true) : |d.toRat - q| ≤ |z.toRat - q| := by
  obtain ⟨negative, num, den, hden, rfl, rfl⟩ := h
  obtain ⟨s, m, rfl⟩ := exists_eq_finite hz
  obtain ⟨-, hvalue⟩ := toRat_ofSteps hd
  have hone := Magnitude.cast_one_pos
  have hratio := steps_ratio_nonneg num den
  have hnearest := Magnitude.abs_nearest_sub_le_abs num hden m.gap_dvd
  calc |(ofSteps negative num den).toRat - signedRat negative ((num : ℚ) / den / Magnitude.one)|
      = |(Magnitude.nearest num den : ℚ) - num / den| / Magnitude.one := by
        rw [hvalue, signedRat_sub, abs_signedRat, ← sub_div, abs_div, abs_of_pos hone]
    _ ≤ |(m.steps : ℚ) - num / den| / Magnitude.one := div_le_div_of_nonneg_right hnearest hone.le
    _ = |m.toRat - num / den / Magnitude.one| := by
        rw [Magnitude.toRat, ← sub_div, abs_div, abs_of_pos hone]
    _ = |(|(finite s m).toRat| - |signedRat negative ((num : ℚ) / den / Magnitude.one)|)| := by
        rw [abs_toRat_finite, abs_signedRat, abs_of_nonneg hratio]
    _ ≤ |(finite s m).toRat - signedRat negative ((num : ℚ) / den / Magnitude.one)| :=
        abs_abs_sub_abs_le _ _

/-- A double near a number is at most twice as far from what the number is rounded to. -/
lemma Rounds.abs_sub_le_twice {q : ℚ} {d z : Double} (h : Rounds q d) (hd : d.isFinite = true)
    (hz : z.isFinite = true) : |d.toRat - z.toRat| ≤ 2 * |q - z.toRat| := by
  have hnearest := h.nearest hd hz
  have htriangle := abs_sub_le d.toRat q z.toRat
  rw [abs_sub_comm z.toRat] at hnearest
  linarith

/-- Rounding changes a number by at most half of a unit in the last place. -/
lemma Rounds.error {q : ℚ} {d : Double} (h : Rounds q d) (hd : d.isFinite = true) :
    |d.toRat - q| ≤ max (|q| / 2 ^ 53) (1 / (2 * (Magnitude.one : ℚ))) := by
  obtain ⟨negative, num, den, hden, rfl, rfl⟩ := h
  obtain ⟨-, hvalue⟩ := toRat_ofSteps hd
  have hone := Magnitude.cast_one_pos
  have hratio := steps_ratio_nonneg num den
  have hhalf := (Magnitude.abs_nearest_sub_le num hden).trans (Magnitude.half_gap_le num hden)
  rw [hvalue, signedRat_sub, abs_signedRat, abs_signedRat, ← sub_div, abs_div, abs_of_pos hone,
    abs_of_nonneg hratio, div_right_comm ((num : ℚ) / den), ← div_div,
    max_div_div_right hone.le]
  exact div_le_div_of_nonneg_right hhalf hone.le

/-- A number that is not below zero is not rounded below zero. -/
lemma Rounds.nonneg {q : ℚ} {d : Double} (h : Rounds q d) (hd : d.isFinite = true) (hq : 0 ≤ q) :
    0 ≤ d.toRat := by
  have hzero : (zero false).toRat = 0 := by
    rw [zero, toRat_finite_false, Magnitude.toRat, Magnitude.steps_zero, Nat.cast_zero, zero_div]
  have hnearest := h.nearest hd (z := zero false) rfl
  rw [hzero, zero_sub, abs_neg, abs_of_nonneg hq] at hnearest
  linarith [neg_abs_le (d.toRat - q)]

/-- A number of smaller size is rounded to one of smaller size, and stays in range. -/
lemma Rounds.mono {p q : ℚ} {d e : Double} (hp : Rounds p d) (hq : Rounds q e)
    (he : e.isFinite = true) (hle : |p| ≤ |q|) : d.isFinite = true ∧ |d.toRat| ≤ |e.toRat| := by
  obtain ⟨s, num, den, hden, rfl, rfl⟩ := hp
  obtain ⟨t, num', den', hden', rfl, rfl⟩ := hq
  obtain ⟨hlimit, hvalue'⟩ := toRat_ofSteps he
  have hone := Magnitude.cast_one_pos
  have hpos : (0 : ℚ) < den := Nat.cast_pos.mpr hden
  have hpos' : (0 : ℚ) < den' := Nat.cast_pos.mpr hden'
  have hmono : Magnitude.nearest num den ≤ Magnitude.nearest num' den' := by
    refine Magnitude.nearest_mono hden hden' ?_
    rw [abs_signedRat, abs_signedRat, abs_of_nonneg (steps_ratio_nonneg num den),
      abs_of_nonneg (steps_ratio_nonneg num' den'), div_le_div_iff_of_pos_right hone,
      div_le_div_iff₀ hpos hpos'] at hle
    exact_mod_cast hle
  have hfinite : (ofSteps s num den).isFinite = true := by
    rw [ofSteps, dif_pos (Nat.lt_of_le_of_lt hmono hlimit)]
    rfl
  obtain ⟨-, hvalue⟩ := toRat_ofSteps hfinite
  refine ⟨hfinite, ?_⟩
  rw [hvalue, hvalue', abs_signedRat, abs_signedRat,
    abs_of_nonneg (div_nonneg (Nat.cast_nonneg _) hone.le),
    abs_of_nonneg (div_nonneg (Nat.cast_nonneg _) hone.le)]
  exact div_le_div_of_nonneg_right (Nat.cast_le.mpr hmono) hone.le

/-! ### Sums, products and quotients -/

/-- A sum of finite numbers is rounded once. -/
lemma rounds_add {x y : Double} (hx : x.isFinite = true) (hy : y.isFinite = true) :
    Rounds (x.toRat + y.toRat) (x + y) := by
  obtain ⟨s, a, rfl⟩ := exists_eq_finite hx
  obtain ⟨t, b, rfl⟩ := exists_eq_finite hy
  have hadd : finite s a + finite t b =
      ofSigned (s && t) (signed s a.steps + signed t b.steps) := rfl
  have hsigned : ∀ (negative : Bool) (m : Magnitude),
      (finite negative m).toRat = (signed negative m.steps : ℚ) / Magnitude.one := by
    intro negative m
    cases negative with
    | false => rfl
    | true =>
      rw [toRat_finite_true, Magnitude.toRat, signed, if_pos rfl, Int.cast_neg, Int.cast_natCast,
        neg_div']
  rw [hadd, hsigned, hsigned, ← add_div, ← Int.cast_add]
  generalize signed s a.steps + signed t b.steps = total
  unfold ofSigned
  split
  · next hzero =>
    refine ⟨s && t, 0, 1, Nat.one_pos, ?_, ?_⟩
    · rw [hzero, Int.cast_zero, zero_div, Nat.cast_zero, zero_div, zero_div]
      cases s && t with
      | false => rfl
      | true => exact neg_zero.symm
    · exact ofSteps_steps (s && t) .zero
  · next hzero =>
    refine ⟨total < 0, total.natAbs, 1, Nat.one_pos, ?_, rfl⟩
    rcases lt_or_ge total 0 with hneg | hnonneg
    · have habs : ((total.natAbs : ℕ) : ℚ) = -total := by
        rw [Nat.cast_natAbs, abs_of_neg hneg, Int.cast_neg]
      rw [decide_eq_true hneg, signedRat, if_pos rfl, habs, Nat.cast_one, div_one, neg_div',
        neg_neg]
    · have habs : ((total.natAbs : ℕ) : ℚ) = total := by
        rw [Nat.cast_natAbs, abs_of_nonneg hnonneg]
      rw [decide_eq_false (not_lt.mpr hnonneg), signedRat, if_neg Bool.false_ne_true, habs,
        Nat.cast_one, div_one]

/-- The opposite number has the opposite value. -/
lemma toRat_neg (x : Double) : (-x).toRat = -x.toRat := by
  cases x with
  | nan => exact neg_zero.symm
  | infinite s => exact neg_zero.symm
  | finite s m =>
    cases s with
    | false => rfl
    | true => exact (neg_neg m.toRat).symm

/-- The opposite number is finite if the number is. -/
lemma isFinite_neg {x : Double} (h : x.isFinite = true) : (-x).isFinite = true := by
  obtain ⟨s, m, rfl⟩ := exists_eq_finite h
  rfl

/-- A difference of finite numbers is rounded once. -/
lemma rounds_sub {x y : Double} (hx : x.isFinite = true) (hy : y.isFinite = true) :
    Rounds (x.toRat - y.toRat) (x - y) := by
  rw [sub_eq_add_neg, ← toRat_neg]
  exact rounds_add hx (isFinite_neg hy)

/-- The product of numbers with signs. -/
lemma signedRat_mul (s t : Bool) (p q : ℚ) :
    signedRat s p * signedRat t q = signedRat (s != t) (p * q) := by
  cases s <;> cases t <;> simp [signedRat]

/-- The quotient of numbers with signs. -/
lemma signedRat_div (s t : Bool) (p q : ℚ) :
    signedRat s p / signedRat t q = signedRat (s != t) (p / q) := by
  cases s <;> cases t <;> simp [signedRat, div_neg, ← neg_div']

/-- A product of finite numbers is rounded once. -/
lemma rounds_mul {x y : Double} (hx : x.isFinite = true) (hy : y.isFinite = true) :
    Rounds (x.toRat * y.toRat) (x * y) := by
  obtain ⟨s, a, rfl⟩ := exists_eq_finite hx
  obtain ⟨t, b, rfl⟩ := exists_eq_finite hy
  refine ⟨s != t, a.steps * b.steps, Magnitude.one, Magnitude.one_pos, ?_,
    (finite_mul_finite s t a b).symm⟩
  rw [toRat_finite, toRat_finite, signedRat_mul, Magnitude.toRat, Magnitude.toRat, Nat.cast_mul,
    div_mul_div_comm, div_div]

/-- A quotient of finite numbers is rounded once, unless the divisor is zero. -/
lemma rounds_div {x y : Double} (hx : x.isFinite = true) (hy : y.isFinite = true)
    (hzero : y.toRat ≠ 0) : Rounds (x.toRat / y.toRat) (x / y) := by
  obtain ⟨s, a, rfl⟩ := exists_eq_finite hx
  obtain ⟨t, b, rfl⟩ := exists_eq_finite hy
  have hb : b.steps ≠ 0 := by
    intro hb
    refine hzero ?_
    rw [← abs_eq_zero, abs_toRat_finite, Magnitude.toRat, hb, Nat.cast_zero, zero_div]
  have hone : (Magnitude.one : ℚ) ≠ 0 := Magnitude.cast_one_pos.ne'
  refine ⟨s != t, a.steps * Magnitude.one, b.steps, Nat.pos_of_ne_zero hb, ?_, ?_⟩
  · rw [toRat_finite, toRat_finite, signedRat_div, Magnitude.toRat, Magnitude.toRat,
      div_div_div_cancel_right₀ hone, Nat.cast_mul, mul_div_right_comm,
      mul_div_cancel_right₀ _ hone]
  · rw [finite_div_finite, if_neg hb]

end Double

end Calculator
