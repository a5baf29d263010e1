import Calculator.Decimal.Notation
import Calculator.Proofs.Decimal.Values
import Calculator.Proofs.Expression.Numerals

/-!
# Decimals as numerals

A decimal that is written positionally is a numeral whose value is the double of the decimal
(`Layout.decimal_of_positional`), and one that is written with an exponent is a numeral with the
exponent mark behind it (`Layout.decimal_of_exponential`). Which of the two is chosen depends on the
power of ten of the leading digit (`Decimal.leading`).
-/

namespace Calculator

/-! ### Numbers of digits -/

/-- The digits of a number are as many as are counted. -/
lemma length_digits (n : Nat) : (digits n).length = digitCount n := by
  induction n using Nat.strongRecOn with
  | _ n ih =>
    rw [digitCount]
    by_cases h : n < 10
    · rw [digits_of_lt_ten h, if_pos h, List.length_singleton]
    · rw [digits_of_ten_le (by omega), if_neg h, List.length_append, ih (n / 10) (by omega),
        List.length_singleton]

/-- A number other than zero has more than `j` digits from `10 ^ j` on. -/
theorem ten_pow_le_iff {n : Nat} (h : n ≠ 0) (j : Nat) : 10 ^ j ≤ n ↔ j < digitCount n := by
  induction n using Nat.strongRecOn generalizing j with
  | _ n ih =>
    rw [digitCount]
    cases j with
    | zero =>
      have hpos : 0 < n := Nat.pos_of_ne_zero h
      split <;> simp only [Nat.pow_zero] <;> omega
    | succ j =>
      by_cases hlt : n < 10
      · have hten : 10 ≤ 10 ^ (j + 1) := Nat.le_pow (Nat.succ_pos j)
        rw [if_pos hlt]
        omega
      · rw [if_neg hlt, Nat.pow_succ, ← Nat.le_div_iff_mul_le (by decide),
          ih (n / 10) (by omega) (by omega) j]
        omega

namespace Numeral

/-! ### Whole numbers -/

/-- The digits of a number are a numeral. -/
lemma isProper_digits (n : Nat) : IsProper ⟨digits n, []⟩ :=
  ⟨fun _ => isDigit_of_mem_digits, fun _ hc => (nomatch hc), Or.inl (digits_ne_nil n)⟩

/-- The digits of a number are the text of their numeral. -/
lemma text_digits (n : Nat) : text ⟨digits n, []⟩ = digits n := if_pos rfl

/-- The numeral of the digits of a number has the double nearest to the number for its value. -/
lemma value_digits (n : Nat) : value ⟨digits n, []⟩ = .ofNat n := by
  have hexponent : -((([] : List Char).length : Nat) : Int) = 0 := rfl
  rw [value, List.append_nil, digitsValue_digits, hexponent, Decimal.toDouble_eq]
  simp only [Int.neg_zero, Int.toNat_zero, Nat.pow_zero, Nat.mul_one]
  rfl

/-! ### Positional notation -/

/-- The numeral of digits with the point after the first `whole` of them. -/
def ofDigits (ds : List Char) (whole : Int) : Numeral :=
  if whole ≤ 0 then ⟨['0'], List.replicate whole.natAbs '0' ++ ds⟩
  else if ds.length ≤ whole.toNat then ⟨ds ++ List.replicate (whole.toNat - ds.length) '0', ['0']⟩
  else ⟨ds.take whole.toNat, ds.drop whole.toNat⟩

/-- Digits with a point are a numeral with a digit on both sides of the point. -/
lemma isProper_ofDigits {ds : List Char} (hdigits : ∀ c ∈ ds, c.isDigit = true) (hne : ds ≠ [])
    (whole : Int) : (ofDigits ds whole).IsProper := by
  have hzeros : ∀ n, ∀ c ∈ List.replicate n '0', c.isDigit = true := by
    intro n c hc
    rw [List.eq_of_mem_replicate hc]
    rfl
  have hboth : ∀ {xs ys : List Char}, (∀ c ∈ xs, c.isDigit = true) → (∀ c ∈ ys, c.isDigit = true) →
      ∀ c ∈ xs ++ ys, c.isDigit = true := by
    intro xs ys hxs hys c hc
    exact (List.mem_append.mp hc).elim (hxs c) (hys c)
  rw [ofDigits]
  split
  · exact ⟨hzeros 1, hboth (hzeros _) hdigits, Or.inl (by simp)⟩
  · split
    · exact ⟨hboth hdigits (hzeros _), hzeros 1, Or.inl (by simp [hne])⟩
    · next hlt =>
      refine ⟨fun c hc => hdigits c (List.mem_of_mem_take hc),
        fun c hc => hdigits c (List.mem_of_mem_drop hc), Or.inr ?_⟩
      simpa using hlt

/-- Digits with a point denote the decimal with the point in that place. -/
lemma value_ofDigits (ds : List Char) (whole : Int) :
    (ofDigits ds whole).value = Decimal.toDouble false ⟨digitsValue ds, whole - ds.length⟩ := by
  rw [ofDigits, value]
  split
  · have hzero : ['0'] ++ (List.replicate whole.natAbs '0' ++ ds) =
        List.replicate (whole.natAbs + 1) '0' ++ ds := by
      rw [List.replicate_succ, List.cons_append]
      rfl
    rw [hzero, digitsValue_append, digitsValue_zeros, Nat.zero_mul, Nat.zero_add,
      List.length_append, List.length_replicate]
    congr 2
    omega
  · split
    · -- The zeros in front of the point and the one behind it are a power of ten.
      have hzeros : ds ++ List.replicate (whole.toNat - ds.length) '0' ++ ['0'] =
          ds ++ List.replicate (whole.toNat - ds.length + 1) '0' := by
        rw [List.replicate_succ', List.append_assoc]
      rw [hzeros, digitsValue_append, digitsValue_zeros, Nat.add_zero, List.length_replicate,
        ← Decimal.toDouble_shift false (digitsValue ds) _ (whole.toNat - ds.length + 1)]
      congr 2
      rw [List.length_singleton]
      omega
    · rw [List.take_append_drop, List.length_drop]
      congr 2
      omega

end Numeral

namespace Decimal

/-- The power of ten of the leading digit of a decimal. -/
def leading (d : Decimal) : Int := (digitCount d.coefficient : Int) + d.exponent - 1

end Decimal

namespace Layout

/-- Digits in positional notation are a numeral. -/
lemma plain_positional {ds : List Char} (hne : ds ≠ []) (whole : Int) :
    plain.positional ds whole = (Numeral.ofDigits ds whole).text := by
  rw [positional, Numeral.ofDigits]
  split
  · simp [Numeral.text, hne]
  · split
    · simp [Numeral.text, plain]
    · next hlt =>
      have hdrop : ds.drop whole.toNat ≠ [] := by simpa using hlt
      rw [Numeral.text, if_neg hdrop]

/-- A decimal in positional notation is a numeral of the double of the decimal. -/
theorem decimal_of_positional (d : Decimal) (h : -4 ≤ d.leading ∧ d.leading < 16) :
    ∃ n : Numeral, n.IsProper ∧ plain.decimal d = n.text ∧ n.value = d.toDouble false := by
  have hproper : (Numeral.ofDigits (digits d.coefficient) (d.leading + 1)).IsProper :=
    Numeral.isProper_ofDigits (fun _ => isDigit_of_mem_digits) (digits_ne_nil _) _
  have hexponent : d.leading + 1 - (digitCount d.coefficient : Int) = d.exponent := by
    rw [Decimal.leading]
    omega
  refine ⟨_, hproper, ?_, ?_⟩
  · rw [decimal, length_digits]
    exact (if_pos h).trans (plain_positional (digits_ne_nil _) _)
  · rw [Numeral.value_ofDigits, length_digits, digitsValue_digits, hexponent]

/-- A decimal with an exponent is a numeral in front of the exponent, and the exponent counts from
the point of the numeral. -/
theorem decimal_of_exponential (d : Decimal) (h : ¬(-4 ≤ d.leading ∧ d.leading < 16)) :
    ∃ n : Numeral, n.IsProper ∧ plain.decimal d = n.text ++ plain.exponentText d.leading ∧
      d = ⟨digitsValue (n.whole ++ n.fraction), d.leading - n.fraction.length⟩ := by
  have hdigit : ∀ c ∈ digits d.coefficient, c.isDigit = true := fun _ => isDigit_of_mem_digits
  have hvalue : digitsValue (digits d.coefficient) = d.coefficient :=
    digitsValue_digits d.coefficient
  have hlength : ((digits d.coefficient).length : Int) = d.leading - d.exponent + 1 := by
    rw [length_digits, Decimal.leading]
    omega
  have hdecimal : plain.decimal d = plain.exponential (digits d.coefficient) d.leading := by
    rw [decimal, length_digits]
    exact if_neg h
  rw [hdecimal]
  cases hds : digits d.coefficient with
  | nil => exact absurd hds (digits_ne_nil _)
  | cons c ds =>
    rw [hds] at hdigit hvalue hlength
    have hproper : (⟨[c], ds⟩ : Numeral).IsProper :=
      ⟨fun b hb => hdigit b (List.mem_cons.mpr (Or.inl (List.mem_singleton.mp hb))),
        fun b hb => hdigit b (List.mem_cons_of_mem c hb), Or.inl (List.cons_ne_nil c [])⟩
    refine ⟨_, hproper, ?_, ?_⟩
    · cases ds <;> simp [exponential, Numeral.text]
    · have hexponent : d.leading - (ds.length : Int) = d.exponent := by
        rw [List.length_cons] at hlength
        omega
      rw [List.singleton_append, hvalue, hexponent]

end Layout

end Calculator
