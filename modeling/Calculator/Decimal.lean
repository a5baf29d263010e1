import Calculator.Double

/-!
# Decimal numerals

A decimal is a whole number of digits and a power of ten. This module writes and reads the digits of
natural numbers and gives the double nearest to a decimal.

* `digitsValue_digits`: the digits that are written read back as the number.
-/

namespace Calculator

/-! ### Digits of natural numbers -/

/-- The character of a digit below ten. -/
def digitChar (digit : Nat) : Char := Char.ofNat ('0'.toNat + digit)

/-- The value of a digit character. -/
def digitValue (c : Char) : Nat := c.toNat - '0'.toNat

/-- The decimal digits of a number, written in front of `rest`. -/
def digitsOnto (n : Nat) (rest : List Char) : List Char :=
  if n < 10 then digitChar n :: rest
  else digitsOnto (n / 10) (digitChar (n % 10) :: rest)

/-- The decimal digits of a number, without leading zeros. -/
def digits (n : Nat) : List Char := digitsOnto n []

/-- The number that a list of digits denotes. -/
def digitsValue (ds : List Char) : Nat :=
  ds.foldl (fun value c => 10 * value + digitValue c) 0

/-- The number of decimal digits of a number. -/
def digitCount (n : Nat) : Nat := if n < 10 then 1 else digitCount (n / 10) + 1

/-- At least `width` digits: shorter numbers are led by zeros. -/
def paddedDigits (width : Nat) (n : Nat) : List Char :=
  List.replicate (width - (digits n).length) '0' ++ digits n

/-- The digits of a number in front of a text. -/
theorem digitsOnto_eq (n : Nat) (rest : List Char) : digitsOnto n rest = digits n ++ rest := by
  induction n using Nat.strongRecOn generalizing rest with
  | _ n ih =>
    by_cases h : n < 10
    · simp [digits, digitsOnto, h]
    · have step : ∀ r, digitsOnto n r = digits (n / 10) ++ digitChar (n % 10) :: r := by
        intro r
        rw [digitsOnto, if_neg h]
        exact ih _ (by omega) _
      rw [step, show digits n = digitsOnto n [] from rfl, step]
      simp

/-- The digits of a number from ten on are those of its tenth and its last digit. -/
theorem digits_of_ten_le {n : Nat} (h : 10 ≤ n) :
    digits n = digits (n / 10) ++ [digitChar (n % 10)] := by
  rw [digits, digitsOnto]
  simp only [Nat.not_lt.mpr h, if_false]
  exact digitsOnto_eq _ _

/-- A number below ten is one digit. -/
theorem digits_of_lt_ten {n : Nat} (h : n < 10) : digits n = [digitChar n] := by
  simp [digits, digitsOnto, h]

/-- A digit character has the value of its digit. -/
theorem digitValue_digitChar {d : Nat} (h : d < 10) : digitValue (digitChar d) = d := by
  revert d; decide

/-- A digit character is a digit. -/
theorem isDigit_digitChar {d : Nat} (h : d < 10) : (digitChar d).isDigit = true := by
  revert d; decide

/-- The digits of a number are digit characters. -/
theorem isDigit_of_mem_digits {n : Nat} {c : Char} (h : c ∈ digits n) : c.isDigit = true := by
  induction n using Nat.strongRecOn with
  | _ n ih =>
    by_cases hn : n < 10
    · rw [digits_of_lt_ten hn, List.mem_singleton] at h
      exact h ▸ isDigit_digitChar hn
    · rw [digits_of_ten_le (by omega), List.mem_append, List.mem_singleton] at h
      rcases h with h | rfl
      · exact ih (n / 10) (by omega) h
      · exact isDigit_digitChar (Nat.mod_lt n (by decide))

/-- There is always a digit. -/
theorem digits_ne_nil (n : Nat) : digits n ≠ [] := by
  by_cases h : n < 10
  · simp [digits_of_lt_ten h]
  · simp [digits_of_ten_le (show 10 ≤ n by omega)]

/-- A further digit multiplies by ten. -/
theorem digitsValue_concat (ds : List Char) (c : Char) :
    digitsValue (ds ++ [c]) = 10 * digitsValue ds + digitValue c := by
  simp [digitsValue]

/-- The digits that are written read back as the number. -/
theorem digitsValue_digits (n : Nat) : digitsValue (digits n) = n := by
  induction n using Nat.strongRecOn with
  | _ n ih =>
    by_cases h : n < 10
    · simp [digits_of_lt_ten h, digitsValue, digitValue_digitChar h]
    · rw [digits_of_ten_le (by omega), digitsValue_concat, ih _ (by omega),
        digitValue_digitChar (Nat.mod_lt n (by decide))]
      omega

/-! ### Decimals -/

/-- The decimal `coefficient * 10 ^ exponent`. -/
structure Decimal where
  coefficient : Nat
  exponent : Int
deriving DecidableEq, Repr

namespace Decimal

/-- The double nearest to a decimal with the given sign. A coefficient other than zero with an
exponent above `400` is out of range, and a decimal below a quarter of a step rounds to zero; both
are decided before the power of ten is formed. -/
def toDouble (negative : Bool) (d : Decimal) : Double :=
  if d.coefficient = 0 then .zero negative
  else match d.exponent with
    | .ofNat e =>
      if 400 < e then .infinite negative
      else .ofRatio negative (d.coefficient * 10 ^ e) 1
    | .negSucc e =>
      if d.coefficient.log2 + 1080 < 3 * e then .zero negative
      else .ofRatio negative d.coefficient (10 ^ (e + 1))

end Decimal

end Calculator
