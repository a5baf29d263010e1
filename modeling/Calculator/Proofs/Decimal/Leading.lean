import Calculator.Proofs.Decimal.Notation

/-!
# The leading digit of a shortest decimal

Where the leading digit of the shortest decimal of a magnitude stands follows from the magnitude
alone: it stands at a power of ten or beyond it just when the magnitude is not below the one nearest
to that power (`Magnitude.le_leading_shortest_iff`). For if the power itself reads back as the
magnitude, then it is found on its own grid, before any smaller decimal is looked at.
-/

namespace Calculator

/-- A decimal on a grid stands with its leading digit at a power of ten or beyond it just when it is
not below that power. -/
lemma Decimal.le_leading_iff {c : Nat} (hc : c ≠ 0) (i j n : Nat) :
    (j : Int) - n ≤ leading ⟨c, (i : Int) - n⟩ ↔ 10 ^ j ≤ c * 10 ^ i := by
  have hpos : 0 < digitCount c := (ten_pow_le_iff hc 0).mp (Nat.pos_of_ne_zero hc)
  simp only [leading]
  by_cases h : i ≤ j
  · have hpower : 10 ^ j = 10 ^ (j - i) * 10 ^ i := by rw [← Nat.pow_add, Nat.sub_add_cancel h]
    rw [hpower, Nat.mul_le_mul_right_iff (Nat.pow_pos (by decide)), ten_pow_le_iff hc]
    omega
  · have hle : 10 ^ j ≤ c * 10 ^ i :=
      calc 10 ^ j ≤ 10 ^ i := Nat.pow_le_pow_right (by decide) (by omega)
        _ ≤ c * 10 ^ i := Nat.le_mul_of_pos_left _ (Nat.pos_of_ne_zero hc)
    simp only [hle, iff_true]
    omega

namespace Magnitude

variable {m : Magnitude}

/-! ### What is found on a grid -/

/-- What lies between two numbers that are read as a magnitude is read as that magnitude. -/
lemma Reads.between {a b c : Nat} (ha : m.Reads a) (hc : m.Reads c) (hab : a ≤ b) (hbc : b ≤ c) :
    m.Reads b := by
  have hlow : nearest a fine ≤ nearest b fine := nearest_le_nearest fine hab
  have hhigh : nearest b fine ≤ nearest c fine := nearest_le_nearest fine hbc
  rw [Reads] at ha hc
  rw [Reads]
  omega

/-- If a point of a grid is read as a magnitude, then a point is found on that grid. -/
lemma onGrid_ne_none {c k : Nat} (h : m.Reads (c * 10 ^ k)) : m.onGrid k ≠ none := by
  have hunit : 0 < 10 ^ k := Nat.pow_pos (by decide)
  have hneighbour : m.Reads (m.expansion / 10 ^ k * 10 ^ k) ∨
      m.Reads ((m.expansion / 10 ^ k + 1) * 10 ^ k) := by
    rcases Nat.le_total (c * 10 ^ k) m.expansion with hle | hle
    · left
      have hc : c ≤ m.expansion / 10 ^ k := (Nat.le_div_iff_mul_le hunit).mpr hle
      exact h.between m.reads_expansion (Nat.mul_le_mul_right _ hc) (Nat.div_mul_le_self _ _)
    · by_cases heq : c * 10 ^ k = m.expansion
      · left
        rw [← heq, Nat.mul_div_cancel c hunit]
        exact h
      · right
        have hlt : m.expansion / 10 ^ k < c := (Nat.div_lt_iff_lt_mul hunit).mpr (by omega)
        have habove : m.expansion ≤ (m.expansion / 10 ^ k + 1) * 10 ^ k :=
          Nat.le_of_lt (Nat.lt_mul_of_div_lt (Nat.lt_succ_self _) hunit)
        exact m.reads_expansion.between h habove (Nat.mul_le_mul_right _ hlt)
  simp only [onGrid]
  generalize m.expansion / 10 ^ k = below at hneighbour
  by_cases hbelow : m.Reads (below * 10 ^ k)
  · rw [if_pos hbelow]
    split
    · split <;> exact Option.some_ne_none _
    · exact Option.some_ne_none _
  · rw [if_neg hbelow, if_pos (hneighbour.resolve_left hbelow)]
    exact Option.some_ne_none _

/-- If something is found on a grid, then nothing finer is taken. -/
lemma firstFound_of_ne_none {find : Nat → Option Nat} (finest : Decimal) {j k : Nat} (hj : 0 < j)
    (hjk : j ≤ k) (h : find j ≠ none) :
    ∃ c i, j ≤ i ∧ find i = some c ∧ firstFound find finest k = ⟨c, (i : Int) - scale⟩ := by
  induction k with
  | zero => omega
  | succ k ih =>
    rw [firstFound]
    cases hfind : find (k + 1) with
    | some c => exact ⟨c, k + 1, hjk, hfind, rfl⟩
    | none =>
      have hne : j ≠ k + 1 := fun heq => h (heq ▸ hfind)
      exact ih (by omega)

/-! ### The leading digit -/

/-- A multiple that is read as a magnitude other than zero is not zero. -/
lemma coefficient_ne_zero (hm : m.steps ≠ 0) {c k : Nat} (h : m.Reads (c * 10 ^ k)) : c ≠ 0 := by
  rintro rfl
  rw [Reads, Nat.zero_mul, nearest_eq_zero fine_pos] at h
  exact hm h.symm

/-- If a power of ten is read as a magnitude, then the shortest decimal has its leading digit there
or beyond. -/
lemma le_leading_shortest_of_reads (hm : m.steps ≠ 0) {j : Nat} (hj : fine ≤ 10 ^ j)
    (h : m.Reads (10 ^ j)) : (j : Int) - scale ≤ m.shortest.leading := by
  have hpos : 0 < j := by
    refine Nat.pos_of_ne_zero fun hzero => ?_
    have hone : 1 < fine := Nat.one_lt_pow (by decide) (by decide)
    rw [hzero, Nat.pow_zero] at hj
    omega
  have hexpansion : 10 ^ j < 2 * m.expansion := by
    have hlt := lt_two_mul_nearest fine_pos hj
    rw [Reads] at h
    rw [h] at hlt
    exact hlt
  have hcount : j ≤ digitCount m.expansion := by
    have hsucc : 10 ^ j = 10 ^ (j - 1) * 10 := by rw [← Nat.pow_succ, Nat.succ_eq_add_one,
      Nat.sub_add_cancel hpos]
    have hne : m.expansion ≠ 0 := by omega
    have hlt := (ten_pow_le_iff hne (j - 1)).mp (by omega)
    omega
  have hfound : m.onGrid j ≠ none := by
    rw [← Nat.one_mul (10 ^ j)] at h
    exact onGrid_ne_none h
  obtain ⟨c, i, hji, hfind, hshortest⟩ :=
    firstFound_of_ne_none ⟨m.expansion, -(scale : Int)⟩ hpos hcount hfound
  have hc : c ≠ 0 := coefficient_ne_zero hm (reads_of_onGrid hfind)
  rw [shortest, coarsest, hshortest, Decimal.le_leading_iff hc]
  calc 10 ^ j ≤ 10 ^ i := Nat.pow_le_pow_right (by decide) hji
    _ ≤ c * 10 ^ i := Nat.le_mul_of_pos_left _ (Nat.pos_of_ne_zero hc)

/-- The leading digit of the shortest decimal stands at a power of ten or beyond it just when the
magnitude is not below the one nearest to that power. -/
theorem le_leading_shortest_iff (hm : m.steps ≠ 0) {j : Nat} (hj : fine ≤ 10 ^ j) :
    (j : Int) - scale ≤ m.shortest.leading ↔ nearest (10 ^ j) fine ≤ m.steps := by
  obtain ⟨c, i, hshortest, hreads⟩ := m.exists_reads_shortest
  have hleading := Decimal.le_leading_iff (coefficient_ne_zero hm hreads) i j scale
  constructor
  · intro h
    rw [hshortest, hleading] at h
    calc nearest (10 ^ j) fine ≤ nearest (c * 10 ^ i) fine := nearest_le_nearest fine h
      _ = m.steps := hreads
  · intro h
    by_cases hle : 10 ^ j ≤ c * 10 ^ i
    · rw [hshortest, hleading]
      exact hle
    · -- The power lies between the decimal and what is not above the magnitude.
      have hge : nearest (c * 10 ^ i) fine ≤ nearest (10 ^ j) fine :=
        nearest_le_nearest fine (Nat.le_of_not_le hle)
      rw [Reads] at hreads
      exact le_leading_shortest_of_reads hm hj (Nat.le_antisymm h (hreads ▸ hge))

end Magnitude

end Calculator
