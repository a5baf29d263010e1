import Calculator.Double

/-!
# Arithmetic of doubles

Each operation computes its result exactly on steps and rounds once. Infinities, the not-a-number
and the signs of zeros follow the usual binary floating-point rules; the remainder truncates, so
that its sign is the sign of the dividend.
-/

namespace Calculator

namespace Double

/-! ### Sum, difference, product, quotient -/

/-- The number with the opposite sign. -/
def neg : Double → Double
  | .nan => .nan
  | .infinite negative => .infinite !negative
  | .finite negative m => .finite (!negative) m

/-- The sum. Opposite infinities have none, and an exact zero is positive unless both terms are
negative zeros. -/
def add : Double → Double → Double
  | .nan, _ => .nan
  | _, .nan => .nan
  | .infinite s, .infinite t => if s = t then .infinite s else .nan
  | .infinite s, .finite _ _ => .infinite s
  | .finite _ _, .infinite t => .infinite t
  | .finite s a, .finite t b => ofSigned (s && t) (signed s a.steps + signed t b.steps)

/-- The difference: the sum with the opposite number. -/
def sub (x y : Double) : Double := add x (neg y)

/-- The product. An infinity times zero has none. -/
def mul : Double → Double → Double
  | .nan, _ => .nan
  | _, .nan => .nan
  | .infinite s, .infinite t => .infinite (s != t)
  | .infinite s, .finite t b => if b.steps = 0 then .nan else .infinite (s != t)
  | .finite s a, .infinite t => if a.steps = 0 then .nan else .infinite (s != t)
  | .finite s a, .finite t b => ofSteps (s != t) (a.steps * b.steps) Magnitude.one

/-- The quotient. A nonzero number over zero is an infinity; zero over zero and infinity over
infinity have none. -/
def div : Double → Double → Double
  | .nan, _ => .nan
  | _, .nan => .nan
  | .infinite _, .infinite _ => .nan
  | .infinite s, .finite t _ => .infinite (s != t)
  | .finite s _, .infinite t => zero (s != t)
  | .finite s a, .finite t b =>
    if b.steps = 0 then
      if a.steps = 0 then .nan else .infinite (s != t)
    else ofSteps (s != t) (a.steps * Magnitude.one) b.steps

/-- The truncating remainder, with the sign of the dividend. It is defined for finite numbers and a
divisor other than zero. -/
def rem : Double → Double → Double
  | .finite s a, .finite _ b =>
    if b.steps = 0 then .nan else ofSteps s (a.steps % b.steps) 1
  | _, _ => .nan

instance : Neg Double := ⟨neg⟩
instance : Add Double := ⟨add⟩
instance : Sub Double := ⟨sub⟩
instance : Mul Double := ⟨mul⟩
instance : Div Double := ⟨div⟩
instance : Mod Double := ⟨rem⟩

/-- A small whole number such as `32` stands for the double of that value. -/
instance (n : Nat) : OfNat Double n := ⟨ofNat n⟩

/-! ### Square root -/

/-- The whole part of the square root, found two binary digits at a time. -/
def natRoot (n : Nat) : Nat :=
  if h : n = 0 then 0
  else
    let root := 2 * natRoot (n / 4)
    if (root + 1) * (root + 1) ≤ n then root + 1 else root
termination_by n
decreasing_by omega

/-- The whole part of the square root is the largest number whose square is not above. -/
theorem natRoot_bounds (n : Nat) :
    natRoot n * natRoot n ≤ n ∧ n < (natRoot n + 1) * (natRoot n + 1) := by
  fun_induction natRoot n with
  | case1 => decide
  | case2 n h root hle ih => grind
  | case3 n h root hle ih => grind

/-- The square root, or a not-a-number for a number below zero. Both zeros are their own roots. The
whole root of `steps * 2 ^ 1074` has far more digits than a double keeps, so one digit that records
whether the root is exact makes the rounding correct. -/
def sqrt : Double → Double
  | .nan => .nan
  | .infinite negative => if negative then .nan else .infinite false
  | .finite negative m =>
    if m.steps = 0 then .finite negative m
    else if negative then .nan
    else
      let square := m.steps * Magnitude.one
      let root := natRoot square
      let sticky := if root * root = square then 0 else 1
      ofSteps false (2 * root + sticky) 2

end Double

end Calculator
