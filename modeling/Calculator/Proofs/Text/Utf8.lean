import Calculator.Text.Units
import Calculator.Text.Utf8
import Mathlib.Tactic.Lemma

/-!
# Texts are decoded from their bytes

The bytes of a text are decoded to that text (`decode_encode`). The decoder reads one byte at a
time, so there is one lemma for each kind of byte: a character of one byte, the first byte of a
longer character, and the bytes that continue it. The restrictions on a second byte are met
because a character has a number of bytes that fits its size, and because it is no surrogate.

Nothing else is decoded (`decode_eq_ok_iff`): bytes that are decoded from the first byte of a
character on begin with the bytes of that character, by the same restrictions.
-/

namespace Calculator.Text

/-! ### Numbers of bytes -/

/-- A character has at least one byte. -/
lemma encodeChar_ne_nil (c : Char) : encodeChar c ≠ [] := by
  unfold encodeChar
  grind

/-- A text has at least as many bytes as characters. -/
lemma length_le_encode (cs : List Char) : cs.length ≤ (encode cs).length := by
  induction cs with
  | nil => exact Nat.zero_le _
  | cons c cs ih =>
    have hpos := List.length_pos_iff.mpr (encodeChar_ne_nil c)
    simp only [encode, List.flatMap_cons, List.length_append, List.length_cons] at ih ⊢
    omega

/-- A character takes at most four bytes. -/
lemma length_encode_le (cs : List Char) : (encode cs).length ≤ 4 * cs.length := by
  induction cs with
  | nil => exact Nat.zero_le _
  | cons c cs ih =>
    have hchar : (encodeChar c).length ≤ 4 := by
      simp only [encodeChar]
      repeat' split
      all_goals simp
    simp only [encode, List.flatMap_cons, List.length_append, List.length_cons] at ih ⊢
    omega

/-! ### Single bytes -/

section Bytes

variable (position : Nat) (before : List Char) (rest : List UInt8)

/-- A small byte is a character. -/
lemma decodeFrom_small {n : Nat} (h : n < 0x80) :
    decodeFrom position none before (.ofNat n :: rest) =
      decodeFrom (position + 1) none (Char.ofNat n :: before) rest := by
  have hbyte : (UInt8.ofNat n).toNat = n := UInt8.toNat_ofNat_of_lt' (show _ < 0x100 by omega)
  simp only [decodeFrom, hbyte, h, if_true]

/-- A first byte opens a character. -/
lemma decodeFrom_first {byte : UInt8} {c : PartialChar} (h : 0x80 ≤ byte.toNat)
    (hfirst : PartialChar.ofFirst? byte = some c) :
    decodeFrom position none before (byte :: rest) =
      decodeFrom (position + 1) (some c) before rest := by
  simp only [decodeFrom, Nat.not_lt.mpr h, if_false, hfirst]

/-- The number that a byte within a character continues. -/
lemma toNat_tailByte (n : Nat) : (tailByte n).toNat = 0x80 + n % 0x40 :=
  UInt8.toNat_ofNat_of_lt' (show _ < 0x100 by omega)

/-- The last byte completes a character. -/
lemma decodeFrom_last {c : PartialChar} {n : Nat} (hlow : c.low ≤ 0x80 + n % 0x40)
    (hhigh : 0x80 + n % 0x40 ≤ c.high) (howed : c.owed = 0) :
    decodeFrom position (some c) before (tailByte n :: rest) =
      decodeFrom (position + 1) none (Char.ofNat (c.value * 0x40 + n % 0x40) :: before) rest := by
  have hmod : (0x80 + n % 0x40) % 0x40 = n % 0x40 := by omega
  simp only [decodeFrom, toNat_tailByte, hlow, hhigh, and_self, if_true, howed, hmod]

/-- A byte before the last one goes on with a character. -/
lemma decodeFrom_next {c : PartialChar} {n owed : Nat} (hlow : c.low ≤ 0x80 + n % 0x40)
    (hhigh : 0x80 + n % 0x40 ≤ c.high) (howed : c.owed = owed + 1) :
    decodeFrom position (some c) before (tailByte n :: rest) =
      decodeFrom (position + 1)
        (some ⟨c.byte, c.taken + 1, owed, 0x80, 0xBF, c.value * 0x40 + n % 0x40⟩) before rest := by
  have hmod : (0x80 + n % 0x40) % 0x40 = n % 0x40 := by omega
  simp only [decodeFrom, toNat_tailByte, hlow, hhigh, and_self, if_true, howed, hmod]

/-! ### Characters of several bytes -/

/-- Two bytes are decoded to their number. -/
lemma decodeFrom_two {n : Nat} (hlow : 0x80 ≤ n) (hhigh : n < 0x800) :
    decodeFrom position none before (.ofNat (0xC0 + n / 0x40) :: tailByte n :: rest) =
      decodeFrom (position + 2) none (Char.ofNat n :: before) rest := by
  have hbyte : (UInt8.ofNat (0xC0 + n / 0x40)).toNat = 0xC0 + n / 0x40 :=
    UInt8.toNat_ofNat_of_lt' (show _ < 0x100 by omega)
  have hfirst : PartialChar.ofFirst? (.ofNat (0xC0 + n / 0x40)) =
      some ⟨.ofNat (0xC0 + n / 0x40), 1, 0, 0x80, 0xBF, n / 0x40⟩ := by
    have hrange : 0xC2 ≤ 0xC0 + n / 0x40 ∧ 0xC0 + n / 0x40 ≤ 0xDF := by omega
    simp only [PartialChar.ofFirst?, hbyte, hrange, and_self, if_true, Nat.add_sub_cancel_left]
  have hvalue : n / 0x40 * 0x40 + n % 0x40 = n := by omega
  rw [decodeFrom_first position before _ (by omega) hfirst,
    decodeFrom_last (position + 1) before rest (Nat.le_add_right _ _) (by simp only []; omega) rfl,
    hvalue]

/-- Three bytes are decoded to their number, which is no surrogate. -/
lemma decodeFrom_three {n : Nat} (hlow : 0x800 ≤ n) (hhigh : n < 0x10000)
    (hhalf : n < 0xD800 ∨ 0xDFFF < n) :
    decodeFrom position none before
        (.ofNat (0xE0 + n / 0x1000) :: tailByte (n / 0x40) :: tailByte n :: rest) =
      decodeFrom (position + 3) none (Char.ofNat n :: before) rest := by
  have hbyte : (UInt8.ofNat (0xE0 + n / 0x1000)).toNat = 0xE0 + n / 0x1000 :=
    UInt8.toNat_ofNat_of_lt' (show _ < 0x100 by omega)
  have hfirst : PartialChar.ofFirst? (.ofNat (0xE0 + n / 0x1000)) =
      some ⟨.ofNat (0xE0 + n / 0x1000), 1, 1, if 0xE0 + n / 0x1000 = 0xE0 then 0xA0 else 0x80,
        if 0xE0 + n / 0x1000 = 0xED then 0x9F else 0xBF, n / 0x1000⟩ := by
    have hrange : 0xE0 ≤ 0xE0 + n / 0x1000 ∧ 0xE0 + n / 0x1000 ≤ 0xEF := by omega
    have hnot : ¬(0xC2 ≤ 0xE0 + n / 0x1000 ∧ 0xE0 + n / 0x1000 ≤ 0xDF) := by omega
    simp only [PartialChar.ofFirst?, hbyte, hnot, hrange, and_self, if_true, if_false,
      Nat.add_sub_cancel_left]
  have hvalue : (n / 0x1000 * 0x40 + n / 0x40 % 0x40) * 0x40 + n % 0x40 = n := by omega
  rw [decodeFrom_first position before _ (by omega) hfirst,
    decodeFrom_next (position + 1) before _ (by simp only []; split <;> omega)
      (by simp only []; split <;> omega) rfl,
    decodeFrom_last (position + 2) before rest (by simp only []; omega)
      (by simp only []; omega) rfl, hvalue]

/-- Four bytes are decoded to their number. -/
lemma decodeFrom_four {n : Nat} (hlow : 0x10000 ≤ n) (hhigh : n < 0x110000) :
    decodeFrom position none before
        (.ofNat (0xF0 + n / 0x40000) :: tailByte (n / 0x1000) :: tailByte (n / 0x40) ::
          tailByte n :: rest) =
      decodeFrom (position + 4) none (Char.ofNat n :: before) rest := by
  have hbyte : (UInt8.ofNat (0xF0 + n / 0x40000)).toNat = 0xF0 + n / 0x40000 :=
    UInt8.toNat_ofNat_of_lt' (show _ < 0x100 by omega)
  have hfirst : PartialChar.ofFirst? (.ofNat (0xF0 + n / 0x40000)) =
      some ⟨.ofNat (0xF0 + n / 0x40000), 1, 2, if 0xF0 + n / 0x40000 = 0xF0 then 0x90 else 0x80,
        if 0xF0 + n / 0x40000 = 0xF4 then 0x8F else 0xBF, n / 0x40000⟩ := by
    have hrange : 0xF0 ≤ 0xF0 + n / 0x40000 ∧ 0xF0 + n / 0x40000 ≤ 0xF4 := by omega
    have hnot : ¬(0xC2 ≤ 0xF0 + n / 0x40000 ∧ 0xF0 + n / 0x40000 ≤ 0xDF) := by omega
    have hnot' : ¬(0xE0 ≤ 0xF0 + n / 0x40000 ∧ 0xF0 + n / 0x40000 ≤ 0xEF) := by omega
    simp only [PartialChar.ofFirst?, hbyte, hnot, hnot', hrange, and_self, if_true, if_false,
      Nat.add_sub_cancel_left]
  have hvalue : ((n / 0x40000 * 0x40 + n / 0x1000 % 0x40) * 0x40 + n / 0x40 % 0x40) * 0x40 +
      n % 0x40 = n := by omega
  rw [decodeFrom_first position before _ (by omega) hfirst,
    decodeFrom_next (position + 1) before _ (by simp only []; split <;> omega)
      (by simp only []; split <;> omega) rfl,
    decodeFrom_next (position + 2) before _ (by simp only []; omega) (by simp only []; omega) rfl,
    decodeFrom_last (position + 3) before rest (by simp only []; omega)
      (by simp only []; omega) rfl, hvalue]

end Bytes

/-! ### Texts -/

/-- The bytes of a character are decoded to it. -/
lemma decodeFrom_encodeChar (position : Nat) (before : List Char) (c : Char) (rest : List UInt8) :
    decodeFrom position none before (encodeChar c ++ rest) =
      decodeFrom (position + (encodeChar c).length) none (c :: before) rest := by
  have hc := CodeUnits.not_half c
  have hofNat : Char.ofNat c.toNat = c := Char.ofNat_toNat c
  unfold encodeChar
  simp only []
  split
  · next h => exact (decodeFrom_small position before rest h).trans (by rw [hofNat]; rfl)
  · split
    · exact (decodeFrom_two position before rest (by omega) (by omega)).trans (by rw [hofNat]; rfl)
    · split
      · exact (decodeFrom_three position before rest (by omega) (by omega) (by omega)).trans
          (by rw [hofNat]; rfl)
      · exact (decodeFrom_four position before rest (by omega) (by omega)).trans
          (by rw [hofNat]; rfl)

/-- The bytes of characters are decoded to them. -/
lemma decodeFrom_encode (position : Nat) (before cs : List Char) :
    decodeFrom position none before (encode cs) = .ok (before.reverse ++ cs) := by
  induction cs generalizing position before with
  | nil => simp [encode, decodeFrom]
  | cons c cs ih =>
    have h := decodeFrom_encodeChar position before c (encode cs)
    rw [ih] at h
    simpa [encode] using h

/-- A text is decoded from its bytes. -/
theorem decode_encode (cs : List Char) : decode (encode cs) = .ok cs :=
  decodeFrom_encode 0 [] cs

/-! ### Bytes that are decoded -/

/-- The number of a character is the number it is made of. -/
lemma toNat_ofNat_of_isValidChar {n : Nat} (h : n.isValidChar) : (Char.ofNat n).toNat = n := by
  rw [Char.ofNat, dif_pos h]
  rfl

/-- A byte is made of its number. -/
lemma ofNat_eq {n : Nat} {b : UInt8} (h : n = b.toNat) : UInt8.ofNat n = b := by
  rw [h, UInt8.ofNat_toNat]

/-- A byte that continues a character has the lowest digits of the number. -/
lemma tailByte_eq {n : Nat} {b : UInt8} (h : n % 0x40 = b.toNat % 0x40) (hlow : 0x80 ≤ b.toNat)
    (hhigh : b.toNat ≤ 0xBF) : tailByte n = b :=
  ofNat_eq (by omega)

/-- A first byte determines how a character goes on. -/
lemma ofFirst?_cases {byte : UInt8} {c : PartialChar} (h : PartialChar.ofFirst? byte = some c) :
    (0xC2 ≤ byte.toNat ∧ byte.toNat ≤ 0xDF ∧ c = ⟨byte, 1, 0, 0x80, 0xBF, byte.toNat - 0xC0⟩) ∨
    (0xE0 ≤ byte.toNat ∧ byte.toNat ≤ 0xEF ∧
      c = ⟨byte, 1, 1, if byte.toNat = 0xE0 then 0xA0 else 0x80,
        if byte.toNat = 0xED then 0x9F else 0xBF, byte.toNat - 0xE0⟩) ∨
    (0xF0 ≤ byte.toNat ∧ byte.toNat ≤ 0xF4 ∧
      c = ⟨byte, 1, 2, if byte.toNat = 0xF0 then 0x90 else 0x80,
        if byte.toNat = 0xF4 then 0x8F else 0xBF, byte.toNat - 0xF0⟩) := by
  simp only [PartialChar.ofFirst?] at h
  split at h
  · next hrange => exact Or.inl ⟨hrange.1, hrange.2, (Option.some.inj h).symm⟩
  · split at h
    · next hrange => exact Or.inr (Or.inl ⟨hrange.1, hrange.2, (Option.some.inj h).symm⟩)
    · split at h
      · next hrange => exact Or.inr (Or.inr ⟨hrange.1, hrange.2, (Option.some.inj h).symm⟩)
      · cases h

/-- Within a character, bytes are decoded only if the next one continues the character. -/
lemma exists_of_decodeFrom_some {position : Nat} {c : PartialChar} {before cs : List Char}
    {bytes : List UInt8} (h : decodeFrom position (some c) before bytes = .ok cs) :
    ∃ byte rest, bytes = byte :: rest ∧ c.low ≤ byte.toNat ∧ byte.toNat ≤ c.high ∧
      (match c.owed with
        | 0 => decodeFrom (position + 1) none
          (Char.ofNat (c.value * 0x40 + byte.toNat % 0x40) :: before) rest
        | owed + 1 => decodeFrom (position + 1)
          (some ⟨c.byte, c.taken + 1, owed, 0x80, 0xBF, c.value * 0x40 + byte.toNat % 0x40⟩)
          before rest) = .ok cs := by
  cases bytes with
  | nil => cases h
  | cons byte rest =>
    rw [decodeFrom] at h
    simp only at h
    split at h
    · next hrange => exact ⟨byte, rest, rfl, hrange.1, hrange.2, h⟩
    · cases h

/-- A byte below `0x80` is the character of its number. -/
lemma encodeChar_one {b : UInt8} (h : b.toNat < 0x80) : encodeChar (Char.ofNat b.toNat) = [b] := by
  rw [encodeChar, toNat_ofNat_of_isValidChar (Or.inl (by omega))]
  simp only [h, if_true, UInt8.ofNat_toNat]

/-- Two bytes are a character. -/
lemma encodeChar_two {b₁ b₂ : UInt8} (h₁ : 0xC2 ≤ b₁.toNat ∧ b₁.toNat ≤ 0xDF)
    (h₂ : 0x80 ≤ b₂.toNat ∧ b₂.toNat ≤ 0xBF) :
    encodeChar (Char.ofNat ((b₁.toNat - 0xC0) * 0x40 + b₂.toNat % 0x40)) = [b₁, b₂] := by
  generalize hn : (b₁.toNat - 0xC0) * 0x40 + b₂.toNat % 0x40 = n
  have hsmall : ¬n < 0x80 := by omega
  have htwo : n < 0x800 := by omega
  rw [encodeChar, toNat_ofNat_of_isValidChar (Or.inl (by omega))]
  simp only [hsmall, if_false, htwo, if_true]
  rw [ofNat_eq (b := b₁) (by omega), tailByte_eq (by omega) h₂.1 h₂.2]

/-- Three bytes are a character, unless they are too many for it or the half of a character. -/
lemma encodeChar_three {b₁ b₂ b₃ : UInt8} (h₁ : 0xE0 ≤ b₁.toNat ∧ b₁.toNat ≤ 0xEF)
    (hlow : (if b₁.toNat = 0xE0 then 0xA0 else 0x80) ≤ b₂.toNat)
    (hhigh : b₂.toNat ≤ if b₁.toNat = 0xED then 0x9F else 0xBF)
    (h₃ : 0x80 ≤ b₃.toNat ∧ b₃.toNat ≤ 0xBF) :
    encodeChar (Char.ofNat (((b₁.toNat - 0xE0) * 0x40 + b₂.toNat % 0x40) * 0x40 +
      b₃.toNat % 0x40)) = [b₁, b₂, b₃] := by
  generalize hn : ((b₁.toNat - 0xE0) * 0x40 + b₂.toNat % 0x40) * 0x40 + b₃.toNat % 0x40 = n
  have htail : 0x80 ≤ b₂.toNat ∧ b₂.toNat ≤ 0xBF := by
    split at hlow <;> split at hhigh <;> omega
  have htwo : ¬n < 0x800 := by
    split at hlow <;> omega
  have hhalf : n < 0xD800 ∨ 0xDFFF < n ∧ n < 0x110000 := by
    split at hhigh <;> omega
  have hsmall : ¬n < 0x80 := by omega
  have hthree : n < 0x10000 := by omega
  rw [encodeChar, toNat_ofNat_of_isValidChar hhalf]
  simp only [hsmall, htwo, if_false, hthree, if_true]
  rw [ofNat_eq (b := b₁) (by omega), tailByte_eq (b := b₂) (by omega) htail.1 htail.2,
    tailByte_eq (by omega) h₃.1 h₃.2]

/-- Four bytes are a character, unless they are too many or too large for one. -/
lemma encodeChar_four {b₁ b₂ b₃ b₄ : UInt8} (h₁ : 0xF0 ≤ b₁.toNat ∧ b₁.toNat ≤ 0xF4)
    (hlow : (if b₁.toNat = 0xF0 then 0x90 else 0x80) ≤ b₂.toNat)
    (hhigh : b₂.toNat ≤ if b₁.toNat = 0xF4 then 0x8F else 0xBF)
    (h₃ : 0x80 ≤ b₃.toNat ∧ b₃.toNat ≤ 0xBF) (h₄ : 0x80 ≤ b₄.toNat ∧ b₄.toNat ≤ 0xBF) :
    encodeChar (Char.ofNat ((((b₁.toNat - 0xF0) * 0x40 + b₂.toNat % 0x40) * 0x40 +
      b₃.toNat % 0x40) * 0x40 + b₄.toNat % 0x40)) = [b₁, b₂, b₃, b₄] := by
  generalize hn : (((b₁.toNat - 0xF0) * 0x40 + b₂.toNat % 0x40) * 0x40 + b₃.toNat % 0x40) * 0x40 +
    b₄.toNat % 0x40 = n
  have htail : 0x80 ≤ b₂.toNat ∧ b₂.toNat ≤ 0xBF := by
    split at hlow <;> split at hhigh <;> omega
  have hthree : ¬n < 0x10000 := by
    split at hlow <;> omega
  have hlarge : n < 0x110000 := by
    split at hhigh <;> omega
  have hsmall : ¬n < 0x80 := by omega
  have htwo : ¬n < 0x800 := by omega
  rw [encodeChar, toNat_ofNat_of_isValidChar (Or.inr ⟨by omega, hlarge⟩)]
  simp only [hsmall, htwo, hthree, if_false]
  rw [ofNat_eq (b := b₁) (by omega), tailByte_eq (b := b₂) (by omega) htail.1 htail.2,
    tailByte_eq (b := b₃) (by omega) h₃.1 h₃.2, tailByte_eq (by omega) h₄.1 h₄.2]

/-- Bytes that are decoded from the first byte of a character on begin with the bytes of a
character. -/
lemma exists_of_decodeFrom_first {position : Nat} {byte : UInt8} {p : PartialChar}
    {before cs : List Char} {rest : List UInt8} (hfirst : PartialChar.ofFirst? byte = some p)
    (h : decodeFrom position (some p) before rest = .ok cs) :
    ∃ c rest' position', byte :: rest = encodeChar c ++ rest' ∧
      decodeFrom position' none (c :: before) rest' = .ok cs := by
  rcases ofFirst?_cases hfirst with ⟨hlow, hhigh, rfl⟩ | ⟨hlow, hhigh, rfl⟩ | ⟨hlow, hhigh, rfl⟩
  · obtain ⟨b₂, rest, rfl, hlow₂, hhigh₂, h⟩ := exists_of_decodeFrom_some h
    refine ⟨_, rest, _, ?_, h⟩
    rw [encodeChar_two ⟨hlow, hhigh⟩ ⟨hlow₂, hhigh₂⟩]
    rfl
  · obtain ⟨b₂, rest, rfl, hlow₂, hhigh₂, h⟩ := exists_of_decodeFrom_some h
    obtain ⟨b₃, rest, rfl, hlow₃, hhigh₃, h⟩ := exists_of_decodeFrom_some h
    refine ⟨_, rest, _, ?_, h⟩
    rw [encodeChar_three ⟨hlow, hhigh⟩ hlow₂ hhigh₂ ⟨hlow₃, hhigh₃⟩]
    rfl
  · obtain ⟨b₂, rest, rfl, hlow₂, hhigh₂, h⟩ := exists_of_decodeFrom_some h
    obtain ⟨b₃, rest, rfl, hlow₃, hhigh₃, h⟩ := exists_of_decodeFrom_some h
    obtain ⟨b₄, rest, rfl, hlow₄, hhigh₄, h⟩ := exists_of_decodeFrom_some h
    refine ⟨_, rest, _, ?_, h⟩
    rw [encodeChar_four ⟨hlow, hhigh⟩ hlow₂ hhigh₂ ⟨hlow₃, hhigh₃⟩ ⟨hlow₄, hhigh₄⟩]
    rfl

/-- Bytes that are decoded are the bytes of the characters that are read. -/
lemma exists_of_decodeFrom {position : Nat} {before cs : List Char} {bytes : List UInt8}
    (h : decodeFrom position none before bytes = .ok cs) :
    ∃ tail, cs = before.reverse ++ tail ∧ bytes = encode tail := by
  induction hlength : bytes.length using Nat.strongRecOn generalizing position before bytes with
  | ind length ih =>
    cases bytes with
    | nil =>
      cases h
      exact ⟨[], (List.append_nil _).symm, rfl⟩
    | cons byte rest =>
      obtain ⟨c, rest', position', hsplit, hrest⟩ : ∃ c rest' position',
          byte :: rest = encodeChar c ++ rest' ∧
            decodeFrom position' none (c :: before) rest' = .ok cs := by
        rw [decodeFrom] at h
        split at h
        · next hsmall => exact ⟨_, rest, _, by rw [encodeChar_one hsmall]; rfl, h⟩
        · split at h
          · next hfirst => exact exists_of_decodeFrom_first hfirst h
          · cases h
      have hlt : rest'.length < length := by
        have hpos := List.length_pos_iff.mpr (encodeChar_ne_nil c)
        rw [← hlength, hsplit, List.length_append]
        omega
      obtain ⟨tail, rfl, rfl⟩ := ih _ hlt hrest rfl
      refine ⟨c :: tail, by simp, ?_⟩
      rw [hsplit, encode, encode, List.flatMap_cons]

/-- Bytes are decoded to a text just when they are the bytes of the text. -/
theorem decode_eq_ok_iff (bytes : List UInt8) (cs : List Char) :
    decode bytes = .ok cs ↔ bytes = encode cs := by
  constructor
  · intro h
    obtain ⟨tail, rfl, rfl⟩ := exists_of_decodeFrom h
    rfl
  · rintro rfl
    exact decode_encode cs

end Calculator.Text
