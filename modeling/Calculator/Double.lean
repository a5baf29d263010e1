/-!
# Double-precision numbers

A double is a not-a-number, a signed infinity, or a signed magnitude. A magnitude is a whole number
of steps of size `2 ^ -1074`, the smallest positive double, so every operation below is exact
arithmetic on natural numbers followed by one rounding.

* `Magnitude.nearest` rounds a ratio of natural numbers to the nearest magnitude, ties to the
  neighbour whose last digit is even; `Magnitude.gap_dvd_nearest` says that it lands on the grid of
  53-bit numbers.
* `Double.ofRatio` is the double nearest to a signed ratio; too large a ratio becomes an infinity.
-/

namespace Calculator

-- Powers of natural numbers are those of the core library in all modules of this namespace, whatever
-- else they import.
attribute [scoped instance (high)] instPowNat

/-! ### Magnitudes -/

namespace Magnitude

/-- The exponent of the step size: a step is `2 ^ -1074`. -/
def scale : Nat := 1074

/-- The number of steps in the number one. -/
def one : Nat := 2 ^ scale

/-- The first number of steps that is out of range: `2 ^ 1024` measured in steps. -/
def limit : Nat := 2 ^ (scale + 1024)

/-- The number of binary digits of a magnitude. -/
def precision : Nat := 53

/-- The distance between neighbouring magnitudes just above `steps`: one below `2 ^ 53`, and twice as
much from every further power of two on. -/
def gap (steps : Nat) : Nat := 2 ^ (steps.log2 + 1 - precision)

/-- The natural number nearest to `num / den`, and the even one of two equally near. -/
def divNearest (num den : Nat) : Nat :=
  let quotient := num / den
  let rest := 2 * (num % den)
  if rest < den ∨ (rest = den ∧ quotient % 2 = 0) then quotient else quotient + 1

/-- The grid point nearest to `num / den` steps, with no bound on its size. -/
def nearest (num den : Nat) : Nat :=
  let spacing := gap (num / den)
  divNearest num (den * spacing) * spacing

/-- A rounded quotient exceeds the quotient by at most one. -/
theorem divNearest_le (num den : Nat) : divNearest num den ≤ num / den + 1 := by
  simp only [divNearest]
  split <;> omega

/-- A rounded quotient is not below the quotient. -/
theorem le_divNearest (num den : Nat) : num / den ≤ divNearest num den := by
  simp only [divNearest]
  split <;> omega

/-- An exact quotient is not changed by rounding. -/
theorem divNearest_mul_right (n : Nat) {den : Nat} (h : 0 < den) :
    divNearest (n * den) den = n := by
  simp [divNearest, Nat.mul_div_cancel n h, h]

/-- A quotient has at most 53 binary digits above its own spacing. -/
theorem div_gap_lt (q : Nat) : q / gap q < 2 ^ precision := by
  have hq : q < 2 ^ (q.log2 + 1) := Nat.lt_log2_self
  have hle : q.log2 + 1 ≤ precision + (q.log2 + 1 - precision) := by omega
  have hpow : 2 ^ (q.log2 + 1) ≤ 2 ^ (precision + (q.log2 + 1 - precision)) :=
    Nat.pow_le_pow_right (by omega) hle
  rw [gap, Nat.div_lt_iff_lt_mul (Nat.two_pow_pos _), ← Nat.pow_add]
  omega

/-- Rounding to the grid yields a point of the grid, also when it carries to the next power of
two. -/
theorem gap_dvd_nearest (num den : Nat) : gap (nearest num den) ∣ nearest num den := by
  simp only [nearest]
  generalize hk : (num / den).log2 + 1 - precision = k
  have hgap : gap (num / den) = 2 ^ k := by rw [gap, hk]
  rw [hgap]
  generalize hm : divNearest num (den * 2 ^ k) = m
  have hmle : m ≤ 2 ^ precision := by
    have h₁ := divNearest_le num (den * 2 ^ k)
    have h₂ := div_gap_lt (num / den)
    rw [hgap, Nat.div_div_eq_div_mul] at h₂
    omega
  by_cases hzero : m = 0
  · simp [hzero]
  have hpos : m * 2 ^ k ≠ 0 := Nat.mul_ne_zero hzero (Nat.ne_of_gt (Nat.two_pow_pos k))
  by_cases htop : m = 2 ^ precision
  · subst htop
    rw [gap, ← Nat.pow_add, Nat.log2_two_pow]
    exact Nat.pow_dvd_pow 2 (by simp only [precision]; omega)
  · have hlog : (m * 2 ^ k).log2 < precision + k := by
      rw [Nat.log2_lt hpos, Nat.pow_add]
      exact Nat.mul_lt_mul_of_pos_right (by omega) (Nat.two_pow_pos k)
    exact Nat.dvd_trans (Nat.pow_dvd_pow 2 (by omega)) (Nat.dvd_mul_left (2 ^ k) m)

/-- A point of the grid is its own nearest grid point. -/
theorem nearest_self {steps : Nat} (h : gap steps ∣ steps) : nearest steps 1 = steps := by
  obtain ⟨m, hm⟩ := h
  have hpos : 0 < gap steps := Nat.two_pow_pos _
  simp only [nearest, Nat.div_one, Nat.one_mul]
  have hdiv : divNearest steps (gap steps) = m := by
    conv => lhs; rw [show steps = m * gap steps by rw [Nat.mul_comm]; exact hm]
    rw [show gap (m * gap steps) = gap steps by rw [Nat.mul_comm, ← hm]]
    exact divNearest_mul_right m hpos
  rw [hdiv, Nat.mul_comm, ← hm]

end Magnitude

/-- A magnitude: a number of steps that is in range and lies on the grid of 53-bit numbers. -/
structure Magnitude where
  /-- The number of steps of size `2 ^ -1074`. -/
  steps : Nat
  /-- The magnitude is below `2 ^ 1024`. -/
  steps_lt : steps < Magnitude.limit
  /-- The magnitude has at most 53 significant binary digits. -/
  gap_dvd : Magnitude.gap steps ∣ steps
deriving DecidableEq

namespace Magnitude

/-- The magnitude of the two zeros. -/
def zero : Magnitude where
  steps := 0
  steps_lt := Nat.two_pow_pos (scale + 1024)
  gap_dvd := Nat.dvd_zero _

@[simp] theorem steps_zero : zero.steps = 0 := rfl

/-- Magnitudes with the same number of steps are the same. -/
@[ext] theorem ext {a b : Magnitude} (h : a.steps = b.steps) : a = b := by
  cases a; cases b; simp_all

end Magnitude

/-! ### Doubles -/

/-- A double-precision number. Zero carries a sign, and there is one not-a-number. -/
inductive Double where
  | nan
  | infinite (negative : Bool)
  | finite (negative : Bool) (magnitude : Magnitude)
deriving DecidableEq

namespace Double

/-- The zero of the given sign. -/
def zero (negative : Bool) : Double := .finite negative .zero

/-- The double nearest to `num / den` steps with the given sign; an infinity when that is out of
range. -/
def ofSteps (negative : Bool) (num den : Nat) : Double :=
  if h : Magnitude.nearest num den < Magnitude.limit then
    .finite negative ⟨Magnitude.nearest num den, h, Magnitude.gap_dvd_nearest num den⟩
  else
    .infinite negative

/-- The double nearest to the ratio `num / den` with the given sign. -/
def ofRatio (negative : Bool) (num den : Nat) : Double :=
  ofSteps negative (num * Magnitude.one) den

/-- The double nearest to a natural number. -/
def ofNat (n : Nat) : Double := ofRatio false n 1

/-- The size of a magnitude's number of steps is recovered from the magnitude. -/
@[simp] theorem ofSteps_steps (negative : Bool) (m : Magnitude) :
    ofSteps negative m.steps 1 = .finite negative m := by
  have h : Magnitude.nearest m.steps 1 = m.steps := Magnitude.nearest_self m.gap_dvd
  simp [ofSteps, h, m.steps_lt]

/-! ### Classes of numbers -/

/-- Whether the number is neither an infinity nor a not-a-number. -/
def isFinite : Double → Bool
  | .finite _ _ => true
  | _ => false

/-- Whether the number is one of the two zeros. -/
def isZero : Double → Bool
  | .finite _ m => m.steps = 0
  | _ => false

/-- Whether the number carries a minus sign. -/
def isNegative : Double → Bool
  | .nan => false
  | .infinite negative => negative
  | .finite negative _ => negative

/-- Numerical equality: the two zeros are equal, and a not-a-number equals nothing. -/
def equal : Double → Double → Bool
  | .infinite s, .infinite t => s = t
  | .finite s a, .finite t b => a.steps = b.steps ∧ (s = t ∨ a.steps = 0)
  | _, _ => false

/-! ### Exact signed steps -/

/-- A sign and a number of steps as one integer. -/
def signed (negative : Bool) (steps : Nat) : Int :=
  if negative then -(steps : Int) else steps

/-- The double nearest to a signed number of steps. A zero takes the given sign. -/
def ofSigned (zeroNegative : Bool) (total : Int) : Double :=
  if total = 0 then zero zeroNegative else ofSteps (total < 0) total.natAbs 1

end Double

end Calculator
