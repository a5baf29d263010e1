/-!
# Texts as 16-bit units

A text in the form in which it is stored. A character above `0xFFFF` takes two units, a high and a low
half, and every other character takes one. A half may also stand alone; it is no character then, but
it is kept and compared like one.

* `points_ofChars`: the characters are read back from their units.
* `ofString_inj`: different texts have different units.
-/

namespace Calculator

/-- A text as 16-bit units. -/
abbrev CodeUnits := List UInt16

/-- A character, or a half that stands alone. -/
inductive CodePoint where
  | char (c : Char)
  | half (unit : UInt16)
deriving DecidableEq, Repr

namespace CodePoint

/-- Whether a code point is a character of a class. -/
def isOf (p : Char → Bool) : CodePoint → Bool
  | .char c => p c
  | .half _ => false

/-- Whether a code point is a half. -/
def isHalf : CodePoint → Bool
  | .char _ => false
  | .half _ => true

/-- The character that a code point is. -/
def char? : CodePoint → Option Char
  | .char c => some c
  | .half _ => none

/-- The code points of a text. -/
def ofString (s : String) : List CodePoint := s.toList.map .char

end CodePoint

namespace CodeUnits

/-! ### Units of characters -/

/-- Whether a unit is the first half of a character. -/
def isHigh (unit : UInt16) : Bool := 0xD800 ≤ unit.toNat ∧ unit.toNat < 0xDC00

/-- Whether a unit is the second half of a character. -/
def isLow (unit : UInt16) : Bool := 0xDC00 ≤ unit.toNat ∧ unit.toNat < 0xE000

/-- The first half of a character above `0xFFFF`. -/
def high (c : Char) : UInt16 := .ofNat (0xD800 + (c.toNat - 0x10000) / 0x400)

/-- The second half of a character above `0xFFFF`. -/
def low (c : Char) : UInt16 := .ofNat (0xDC00 + (c.toNat - 0x10000) % 0x400)

/-- The units of a character. -/
def ofChar (c : Char) : CodeUnits :=
  if c.toNat < 0x10000 then [.ofNat c.toNat] else [high c, low c]

/-- The units of characters. -/
def ofChars (cs : List Char) : CodeUnits := cs.flatMap ofChar

/-- The units of a text. -/
def ofString (s : String) : CodeUnits := ofChars s.toList

/-! ### Characters of units -/

/-- The character of two halves. -/
def join (high low : UInt16) : Char :=
  Char.ofNat (0x10000 + (high.toNat - 0xD800) * 0x400 + (low.toNat - 0xDC00))

/-- The code point of a unit on its own. -/
def single (unit : UInt16) : CodePoint :=
  if isHigh unit || isLow unit then .half unit else .char (Char.ofNat unit.toNat)

/-- The code points of a text. -/
def points : CodeUnits → List CodePoint
  | [] => []
  | [unit] => [single unit]
  | first :: second :: rest =>
    if isHigh first && isLow second then .char (join first second) :: points rest
    else single first :: points (second :: rest)

/-- The text with the replacement character in place of halves that stand alone. -/
def toString (text : CodeUnits) : String :=
  .ofList (text.points.map fun p => p.char?.getD '\uFFFD')

/-! ### Reading back -/

/-- A character lies outside the range of the halves. -/
theorem not_half (c : Char) : c.toNat < 0xD800 ∨ 0xDFFF < c.toNat ∧ c.toNat < 0x110000 := c.valid

/-- A unit that is no first half is a code point on its own. -/
theorem points_cons_of_not_high {unit : UInt16} (h : isHigh unit = false) (rest : CodeUnits) :
    points (unit :: rest) = single unit :: points rest := by
  cases rest with
  | nil => rfl
  | cons second rest => simp [points, h]

/-- The units of a character in front of a text are its first code point. -/
theorem points_ofChar_append (c : Char) (rest : CodeUnits) :
    points (ofChar c ++ rest) = .char c :: points rest := by
  have hc := not_half c
  by_cases hsmall : c.toNat < 0x10000
  · have hnat : (UInt16.ofNat c.toNat).toNat = c.toNat := by
      rw [UInt16.toNat_ofNat']; omega
    have hhigh : isHigh (.ofNat c.toNat) = false := by
      simp only [isHigh, hnat, decide_eq_false_iff_not]; omega
    have hlow : isLow (.ofNat c.toNat) = false := by
      simp only [isLow, hnat, decide_eq_false_iff_not]; omega
    rw [ofChar, if_pos hsmall, List.singleton_append, points_cons_of_not_high hhigh]
    simp [single, hhigh, hlow, hnat]
  · have hhighNat : (high c).toNat = 0xD800 + (c.toNat - 0x10000) / 0x400 := by
      rw [high, UInt16.toNat_ofNat']; omega
    have hlowNat : (low c).toNat = 0xDC00 + (c.toNat - 0x10000) % 0x400 := by
      rw [low, UInt16.toNat_ofNat']; omega
    have hhigh : isHigh (high c) = true := by
      simp only [isHigh, hhighNat, decide_eq_true_eq]; omega
    have hlow : isLow (low c) = true := by
      simp only [isLow, hlowNat, decide_eq_true_eq]; omega
    have hjoin : join (high c) (low c) = c := by
      rw [join, hhighNat, hlowNat]
      rw [show 0x10000 + (0xD800 + (c.toNat - 0x10000) / 0x400 - 0xD800) * 0x400 +
        (0xDC00 + (c.toNat - 0x10000) % 0x400 - 0xDC00) = c.toNat by omega]
      exact Char.ofNat_toNat c
    simp [ofChar, hsmall, points, hhigh, hlow, hjoin]

/-- The characters are read back from their units. -/
theorem points_ofChars (cs : List Char) : points (ofChars cs) = cs.map .char := by
  induction cs with
  | nil => rfl
  | cons c cs ih => rw [ofChars, List.flatMap_cons, points_ofChar_append, List.map_cons, ← ih]; rfl

/-- The text is read back from its units. -/
@[simp] theorem toString_ofString (s : String) : (ofString s).toString = s := by
  simp [toString, ofString, points_ofChars, CodePoint.char?, Function.comp_def]

/-- The units of a text after those of another. -/
theorem ofString_append (s t : String) : ofString (s ++ t) = ofString s ++ ofString t := by
  rw [ofString, String.toList_append, ofChars, List.flatMap_append]
  rfl

/-- Different texts have different units. -/
theorem ofString_inj {s t : String} : ofString s = ofString t ↔ s = t :=
  ⟨fun h => by rw [← toString_ofString s, h, toString_ofString], fun h => by rw [h]⟩

end CodeUnits

end Calculator
