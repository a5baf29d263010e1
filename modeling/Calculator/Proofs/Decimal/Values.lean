import Calculator.Decimal.Shortest
import Calculator.Proofs.Double.Rounding

/-!
# Values of decimals

The double of a decimal is its correctly rounded value, also where the power of ten is not formed
(`Decimal.toDouble_eq`). So decimals of the same value have the same double, however the value is
divided between the coefficient and the exponent (`Decimal.toDouble_shift`), and the shortest
decimal of a magnitude has that magnitude for its double (`Magnitude.toDouble_shortest`).
-/

namespace Calculator

/-! ### Digits -/

/-- Digits behind a number already read. -/
lemma foldl_digits (ds : List Char) (value : Nat) :
    ds.foldl (fun value c => 10 * value + digitValue c) value =
      value * 10 ^ ds.length + digitsValue ds := by
  induction ds generalizing value with
  | nil => simp [digitsValue]
  | cons d ds ih =>
    rw [digitsValue, List.foldl_cons, List.foldl_cons, ih, ih, List.length_cons, Nat.pow_succ,
      Nat.add_mul, Nat.add_mul, Nat.mul_zero, Nat.zero_mul, Nat.zero_add, Nat.add_assoc]
    congr 1
    rw [Nat.mul_comm 10, Nat.mul_assoc, Nat.mul_comm 10]

/-- The value of digits that are followed by others. -/
lemma digitsValue_append (xs ys : List Char) :
    digitsValue (xs ++ ys) = digitsValue xs * 10 ^ ys.length + digitsValue ys := by
  rw [digitsValue, List.foldl_append, foldl_digits]
  rfl

/-- Zeros have no value. -/
@[simp] lemma digitsValue_zeros (n : Nat) : digitsValue (List.replicate n '0') = 0 := by
  induction n with
  | zero => rfl
  | succ n ih =>
    rw [List.replicate_succ', digitsValue_append, ih]
    rfl

namespace Decimal

/-! ### Correct rounding -/

/-- Nothing is rounded to zero. -/
lemma ofRatio_zero (negative : Bool) {den : Nat} (hden : 0 < den) :
    Double.ofRatio negative 0 den = .zero negative :=
  Double.ofSteps_of_small negative (by omega)

/-- Three binary digits are worth less than a decimal one. -/
lemma two_pow_le_ten_pow (e : Nat) : 2 ^ (3 * e) ≤ 10 ^ e := by
  rw [Nat.pow_mul]
  exact Nat.pow_le_pow_left (by decide) e

/-- A coefficient other than zero with a great exponent is out of range. -/
lemma ofRatio_of_great (negative : Bool) {c e : Nat} (hc : c ≠ 0) (he : 400 < e) :
    Double.ofRatio negative (c * 10 ^ e) 1 = .infinite negative := by
  refine Double.ofSteps_of_limit_le negative ?_
  rw [Nat.div_one]
  calc Magnitude.limit ≤ 2 ^ (3 * e + Magnitude.scale) :=
        Nat.pow_le_pow_right (by decide) (by omega)
    _ = 2 ^ (3 * e) * Magnitude.one := Nat.pow_add _ _ _
    _ ≤ 10 ^ e * Magnitude.one := Nat.mul_le_mul_right _ (two_pow_le_ten_pow e)
    _ ≤ c * 10 ^ e * Magnitude.one :=
        Nat.mul_le_mul_right _ (Nat.le_mul_of_pos_left _ (Nat.pos_of_ne_zero hc))

/-- A coefficient that is small beside its power of ten is rounded to zero. -/
lemma ofRatio_of_small (negative : Bool) {c e : Nat} (h : c.log2 + 1080 < 3 * e) :
    Double.ofRatio negative c (10 ^ (e + 1)) = .zero negative := by
  refine Double.ofSteps_of_small negative ?_
  calc 2 * (c * Magnitude.one) < 2 * (2 ^ (c.log2 + 1) * Magnitude.one) :=
        Nat.mul_lt_mul_of_pos_left
          (Nat.mul_lt_mul_of_pos_right Nat.lt_log2_self Magnitude.one_pos) (by decide)
    _ = 2 ^ (c.log2 + 1 + Magnitude.scale + 1) := by
        rw [Magnitude.one, ← Nat.pow_add, Nat.mul_comm, ← Nat.pow_succ]
    _ ≤ 2 ^ (3 * e) := Nat.pow_le_pow_right (by decide) (by simp only [Magnitude.scale]; omega)
    _ ≤ 10 ^ e := two_pow_le_ten_pow e
    _ ≤ 10 ^ (e + 1) := Nat.pow_le_pow_right (by decide) (Nat.le_succ e)

/-- The double of a decimal is the double nearest to its value. -/
theorem toDouble_eq (negative : Bool) (d : Decimal) :
    d.toDouble negative =
      .ofRatio negative (d.coefficient * 10 ^ d.exponent.toNat) (10 ^ (-d.exponent).toNat) := by
  obtain ⟨c, e⟩ := d
  unfold toDouble
  by_cases hc : c = 0
  · simp only [hc, if_true, Nat.zero_mul]
    exact (ofRatio_zero negative (Nat.pow_pos (by decide))).symm
  simp only [hc, if_false]
  cases e with
  | ofNat e =>
    have hneg : (-Int.ofNat e).toNat = 0 :=
      Int.toNat_eq_zero.mpr (Int.neg_nonpos_of_nonneg (Int.natCast_nonneg e))
    have htoNat : (Int.ofNat e).toNat = e := rfl
    simp only [hneg, htoNat, Nat.pow_zero]
    split
    · next he => exact (ofRatio_of_great negative hc he).symm
    · rfl
  | negSucc e =>
    have hneg : (-Int.negSucc e).toNat = e + 1 := rfl
    have htoNat : (Int.negSucc e).toNat = 0 := rfl
    simp only [hneg, htoNat, Nat.pow_zero, Nat.mul_one]
    split
    · next he => exact (ofRatio_of_small negative he).symm
    · rfl

/-- A power of ten may stand in the coefficient or in the exponent. -/
theorem toDouble_shift (negative : Bool) (c : Nat) (e : Int) (n : Nat) :
    toDouble negative ⟨c * 10 ^ n, e - n⟩ = toDouble negative ⟨c, e⟩ := by
  rw [toDouble_eq, toDouble_eq]
  refine Double.ofRatio_congr negative (Nat.pow_pos (by decide)) (Nat.pow_pos (by decide)) ?_
  have hexponents : n + (e - n).toNat + (-e).toNat = e.toNat + (-(e - n)).toNat := by omega
  simp only [Nat.mul_assoc, ← Nat.pow_add]
  rw [hexponents]

end Decimal

namespace Magnitude

/-! ### Shortest decimals -/

/-- A step has a fine part. -/
lemma fine_pos : 0 < fine := Nat.pow_pos (by decide)

/-- A step is `10 ^ 1074` times its fine part. -/
lemma one_mul_fine : one * fine = 10 ^ scale := by
  have hpow : ∀ n : Nat, (2 : Nat) ^ n * 5 ^ n = 10 ^ n := fun n => (Nat.mul_pow 2 5 n).symm
  unfold one fine
  exact hpow scale

/-- A number of `10 ^ -1074` that is read as a magnitude is a decimal of that magnitude. -/
lemma toDouble_of_reads (m : Magnitude) (c k : Nat) (h : m.Reads (c * 10 ^ k)) (negative : Bool) :
    Decimal.toDouble negative ⟨c, k - (scale : Int)⟩ = .finite negative m := by
  have hexponents : ((k : Int) - scale).toNat + scale = k + (-((k : Int) - scale)).toNat := by
    simp only [scale]
    omega
  have hratio : c * 10 ^ ((k : Int) - scale).toNat * one * fine =
      c * 10 ^ k * 10 ^ (-((k : Int) - scale)).toNat := by
    rw [Nat.mul_assoc _ one fine, one_mul_fine, Nat.mul_assoc, Nat.mul_assoc, ← Nat.pow_add,
      ← Nat.pow_add, hexponents]
  have hread : nearest (c * 10 ^ k) fine = m.steps := h
  have hsteps : nearest (c * 10 ^ ((k : Int) - scale).toNat * one)
      (10 ^ (-((k : Int) - scale)).toNat) = m.steps := by
    rw [nearest_congr (Nat.pow_pos (by decide)) fine_pos hratio, hread]
  rw [Decimal.toDouble_eq, Double.ofRatio, Double.ofSteps, dif_pos (hsteps ▸ m.steps_lt)]
  exact congrArg (Double.finite negative) (Magnitude.ext hsteps)

/-- A magnitude reads itself. -/
lemma reads_expansion (m : Magnitude) : m.Reads m.expansion := by
  rw [Reads, expansion, nearest_congr fine_pos Nat.one_pos (Nat.mul_one _), nearest_self m.gap_dvd]

/-- What is found first is found on some grid, or nothing is found. -/
lemma firstFound_cases (find : Nat → Option Nat) (finest : Decimal) (k : Nat) :
    firstFound find finest k = finest ∨
      ∃ c j, find (j + 1) = some c ∧
        firstFound find finest k = ⟨c, (j + 1 : Nat) - (scale : Int)⟩ := by
  induction k with
  | zero => exact Or.inl rfl
  | succ k ih =>
    rw [firstFound]
    cases hfind : find (k + 1) with
    | some c => exact Or.inr ⟨c, k, hfind, rfl⟩
    | none => exact ih

/-- The shortest decimal is a point of a grid that is read as the magnitude. -/
lemma exists_reads_shortest (m : Magnitude) :
    ∃ c k : Nat, m.shortest = ⟨c, (k : Int) - scale⟩ ∧ m.Reads (c * 10 ^ k) := by
  rw [shortest, coarsest]
  rcases firstFound_cases m.onGrid ⟨m.expansion, -(scale : Int)⟩ (digitCount m.expansion) with
    heq | ⟨c, j, hfind, heq⟩
  · have hexponent : ((0 : Nat) : Int) - (scale : Int) = -(scale : Int) := Int.zero_sub _
    refine ⟨m.expansion, 0, by rw [heq, hexponent], ?_⟩
    rw [Nat.pow_zero, Nat.mul_one]
    exact m.reads_expansion
  · exact ⟨c, j + 1, heq, reads_of_onGrid hfind⟩

/-- The shortest decimal of a magnitude has the magnitude for its double. -/
theorem toDouble_shortest (m : Magnitude) (negative : Bool) :
    m.shortest.toDouble negative = .finite negative m := by
  obtain ⟨c, k, hshortest, hreads⟩ := m.exists_reads_shortest
  rw [hshortest]
  exact toDouble_of_reads m c k hreads negative

end Magnitude

end Calculator
