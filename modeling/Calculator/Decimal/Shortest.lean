import Calculator.Decimal

/-!
# The shortest decimal of a double

A step is `2 ^ -1074 = 5 ^ 1074 * 10 ^ -1074`, so every magnitude is a whole number of `10 ^ -1074`.
Its shortest decimal is found on the coarsest grid of powers of ten on which one of its two
neighbours reads back as the magnitude.

* `reads_of_onGrid`: a neighbour that is found on a grid reads back.
-/

namespace Calculator

namespace Magnitude

/-- The number of `10 ^ -1074` in a step. -/
def fine : Nat := 5 ^ scale

/-- The magnitude as a whole number of `10 ^ -1074`. -/
def expansion (m : Magnitude) : Nat := m.steps * fine

/-- Whether a number of `10 ^ -1074` is read as the magnitude. -/
def Reads (m : Magnitude) (n : Nat) : Prop := nearest n fine = m.steps

instance (m : Magnitude) (n : Nat) : Decidable (m.Reads n) :=
  inferInstanceAs (Decidable (_ = _))

/-- The neighbour of the magnitude among the multiples of `10 ^ (k - 1074)` that reads back, as a
multiple: the nearer of two, and the even one of two equally near. -/
def onGrid (m : Magnitude) (k : Nat) : Option Nat :=
  let unit : Nat := 10 ^ k
  let below := m.expansion / unit
  let above := below + 1
  if m.Reads (below * unit) then
    if m.Reads (above * unit) then
      let rest := 2 * (m.expansion % unit)
      if rest < unit ∨ (rest = unit ∧ below % 2 = 0) then some below else some above
    else some below
  else if m.Reads (above * unit) then some above
  else none

/-- The decimal that is found first on the grids from `10 ^ (k - 1074)` on, the finer ones after the
coarser ones; `finest` if none is found. -/
def firstFound (find : Nat → Option Nat) (finest : Decimal) : Nat → Decimal
  | 0 => finest
  | k + 1 =>
    match find (k + 1) with
    | some c => ⟨c, (k + 1 : Nat) - (scale : Int)⟩
    | none => firstFound find finest k

/-- The decimal on the coarsest of the grids up to `10 ^ (k - 1074)`. On the finest grid the
magnitude itself is a point. -/
def coarsest (m : Magnitude) (k : Nat) : Decimal :=
  firstFound m.onGrid ⟨m.expansion, -(scale : Int)⟩ k

/-- The shortest decimal that reads back as the magnitude. -/
def shortest (m : Magnitude) : Decimal := m.coarsest (digitCount m.expansion)

/-- What is found on a grid reads back. -/
theorem reads_of_onGrid {m : Magnitude} {k c : Nat} (h : m.onGrid k = some c) :
    m.Reads (c * 10 ^ k) := by
  simp only [onGrid] at h
  generalize m.expansion / 10 ^ k = below at h
  by_cases hbelow : m.Reads (below * 10 ^ k)
  · rw [if_pos hbelow] at h
    by_cases habove : m.Reads ((below + 1) * 10 ^ k)
    · rw [if_pos habove] at h
      split at h
      · exact Option.some.inj h ▸ hbelow
      · exact Option.some.inj h ▸ habove
    · rw [if_neg habove] at h
      exact Option.some.inj h ▸ hbelow
  · rw [if_neg hbelow] at h
    by_cases habove : m.Reads ((below + 1) * 10 ^ k)
    · rw [if_pos habove] at h
      exact Option.some.inj h ▸ habove
    · rw [if_neg habove] at h
      exact nomatch h

end Magnitude

end Calculator
