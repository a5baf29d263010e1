import Calculator.Display
import Calculator.Proofs.Decimal.Leading

/-!
# Displayed numbers as sources

A finite number on the display is a source again just when it is written without an exponent. Then
the source has the value of the number; otherwise it is refused at the exponent mark
(`rereads_display`). Without an exponent stand zero and the magnitudes from a ten-thousandth to
below `10 ^ 16` (`Magnitude.IsPositional`).
-/

namespace Calculator

namespace Magnitude

/-- Zero, or a magnitude not below the one nearest to a ten-thousandth and below `10 ^ 16`. -/
def IsPositional (m : Magnitude) : Prop :=
  m.steps = 0 ∨ nearest one 10000 ≤ m.steps ∧ m.steps < 10 ^ wholeDigits * one

instance (m : Magnitude) : Decidable m.IsPositional :=
  inferInstanceAs (Decidable (_ ∨ _))

/-- A negative power of ten on the grid of the expansions. -/
lemma nearest_ten_pow {j k : Nat} (h : j + k = scale) :
    nearest (10 ^ j) fine = nearest one (10 ^ k) := by
  refine nearest_congr fine_pos (Nat.pow_pos (by decide)) ?_
  rw [one_mul_fine, ← Nat.pow_add, h]

/-- A power of ten on the grid of the expansions, if it is a magnitude. -/
lemma nearest_ten_pow_of_gap_dvd {j k : Nat} (h : j = k + scale)
    (hgrid : gap (10 ^ k * one) ∣ 10 ^ k * one) : nearest (10 ^ j) fine = 10 ^ k * one := by
  rw [← nearest_self hgrid]
  refine nearest_congr fine_pos Nat.one_pos ?_
  rw [Nat.mul_one, Nat.mul_assoc, one_mul_fine, ← Nat.pow_add, h]

/-- From a ten-thousandth to below `10 ^ 16` the shortest decimal is written positionally. -/
lemma leading_shortest_iff {m : Magnitude} (hm : m.steps ≠ 0) :
    (-4 ≤ m.shortest.leading ∧ m.shortest.leading < 16) ↔ m.IsPositional := by
  have hlow : ((1070 : Nat) : Int) - scale ≤ m.shortest.leading ↔
      nearest one 10000 ≤ m.steps := by
    rw [show 10000 = 10 ^ 4 from rfl, ← nearest_ten_pow (show 1070 + 4 = scale from rfl)]
    exact le_leading_shortest_iff hm (by decide +kernel)
  have hhigh : ((1090 : Nat) : Int) - scale ≤ m.shortest.leading ↔
      10 ^ wholeDigits * one ≤ m.steps := by
    rw [← nearest_ten_pow_of_gap_dvd (show 1090 = wholeDigits + scale from rfl) (by decide +kernel)]
    exact le_leading_shortest_iff hm (by decide +kernel)
  simp only [scale] at hlow hhigh
  simp only [IsPositional, hm, false_or, ← hlow, ← Nat.not_le, ← hhigh]
  omega

/-- A displayed whole number is the magnitude in steps. -/
lemma steps_of_displayedWhole? {m : Magnitude} {n : Nat} (h : m.displayedWhole? = some n) :
    m.steps = n * one ∧ n < 10 ^ wholeDigits := by
  unfold displayedWhole? at h
  split at h
  · next hwhole =>
    obtain rfl := Option.some.inj h
    exact ⟨(Nat.div_mul_cancel (Nat.dvd_of_mod_eq_zero hwhole.1)).symm, hwhole.2⟩
  · cases h

/-- A displayed whole number needs no exponent. -/
lemma isPositional_of_displayedWhole? {m : Magnitude} {n : Nat} (h : m.displayedWhole? = some n) :
    m.IsPositional := by
  obtain ⟨hsteps, hlt⟩ := steps_of_displayedWhole? h
  rcases Nat.eq_zero_or_pos n with rfl | hpos
  · exact Or.inl (by rw [hsteps, Nat.zero_mul])
  · right
    have hone : gap one ∣ one := Nat.pow_dvd_pow 2 (by decide +kernel)
    constructor
    · calc nearest one 10000 ≤ nearest one 1 :=
            nearest_mono (by decide) Nat.one_pos (Nat.mul_le_mul_left one (by decide))
        _ = one := nearest_self hone
        _ ≤ n * one := Nat.le_mul_of_pos_left one hpos
        _ = m.steps := hsteps.symm
    · rw [hsteps]
      exact Nat.mul_lt_mul_of_pos_right hlt one_pos

end Magnitude

namespace Double

/-- A magnitude other than zero is displayed as a whole number, or else as its shortest decimal. -/
lemma displayChars_eq {m : Magnitude} (hm : m.steps ≠ 0) :
    (∃ k, m.displayedWhole? = some k ∧
        ∀ negative, displayChars (.finite negative m) = signText negative (digits k)) ∨
      (m.displayedWhole? = none ∧
        ∀ negative,
          displayChars (.finite negative m) =
            signText negative (Layout.plain.decimal m.shortest)) := by
  cases hwhole : m.displayedWhole? with
  | some k =>
    refine Or.inl ⟨k, rfl, fun negative => ?_⟩
    simp only [displayChars, hm, if_false, hwhole]
  | none =>
    refine Or.inr ⟨rfl, fun negative => ?_⟩
    simp only [displayChars, hm, if_false, hwhole, chars, Layout.magnitude]

/-- A magnitude other than zero is displayed as a numeral of its value, or as a numeral with an
exponent behind it. -/
lemma displayChars_cases {m : Magnitude} (hm : m.steps ≠ 0) :
    ∃ n : Numeral, n.IsProper ∧
      ((m.IsPositional ∧ n.value = .finite false m ∧
          ∀ negative, displayChars (.finite negative m) = signText negative n.text) ∨
        (¬m.IsPositional ∧
          ∃ rest, ∀ negative,
            displayChars (.finite negative m) = signText negative (n.text ++ 'e' :: rest))) := by
  rcases displayChars_eq hm with ⟨k, hwhole, hchars⟩ | ⟨-, hchars⟩
  · obtain ⟨hsteps, -⟩ := Magnitude.steps_of_displayedWhole? hwhole
    refine ⟨_, Numeral.isProper_digits k,
      Or.inl ⟨Magnitude.isPositional_of_displayedWhole? hwhole, ?_, fun negative => ?_⟩⟩
    · rw [Numeral.value_digits, ofNat, ofRatio, ← hsteps, ofSteps_steps]
    · rw [hchars, Numeral.text_digits]
  · by_cases hpositional : m.IsPositional
    · obtain ⟨n, hproper, htext, hvalue⟩ :=
        Layout.decimal_of_positional m.shortest
          ((Magnitude.leading_shortest_iff hm).mpr hpositional)
      rw [m.toDouble_shortest] at hvalue
      exact ⟨n, hproper, Or.inl ⟨hpositional, hvalue, fun negative => by rw [hchars, htext]⟩⟩
    · obtain ⟨n, hproper, htext, -⟩ :=
        Layout.decimal_of_exponential m.shortest
          (fun h => hpositional ((Magnitude.leading_shortest_iff hm).mp h))
      obtain ⟨rest, hrest⟩ :
          ∃ rest, Layout.plain.exponentText m.shortest.leading = 'e' :: rest := ⟨_, rfl⟩
      rw [hrest] at htext
      exact ⟨n, hproper, Or.inr ⟨hpositional, rest, fun negative => by rw [hchars, htext]⟩⟩

/-- A displayed finite number begins with a minus sign or with a character of a number. -/
lemma exists_displayChars_eq_cons (negative : Bool) (m : Magnitude) :
    ∃ c rest, displayChars (.finite negative m) = c :: rest ∧ (c = '-' ∨ isNumeric c = true) := by
  by_cases hm : m.steps = 0
  · exact ⟨'0', [], by simp only [displayChars, hm, if_true], Or.inr rfl⟩
  · obtain ⟨n, hproper, hcases⟩ := displayChars_cases hm
    obtain ⟨tail, htail⟩ : ∃ tail, displayChars (.finite negative m) =
        signText negative (n.text ++ tail) := by
      rcases hcases with ⟨-, -, htext⟩ | ⟨-, rest, htext⟩
      · exact ⟨[], by rw [htext, List.append_nil]⟩
      · exact ⟨_, htext negative⟩
    obtain ⟨c, rest, htext, hnumeric⟩ := Numeral.exists_text_eq_cons hproper
    rw [htail, htext]
    cases negative with
    | false => exact ⟨c, rest ++ tail, rfl, Or.inr hnumeric⟩
    | true => exact ⟨'-', _, rfl, Or.inl rfl⟩

/-- A finite number that needs no exponent. -/
def IsPositional : Double → Prop
  | .finite _ m => m.IsPositional
  | _ => False

instance : (x : Double) → Decidable x.IsPositional
  | .finite _ m => inferInstanceAs (Decidable m.IsPositional)
  | .nan => isFalse id
  | .infinite _ => isFalse id

end Double

/-! ### Displayed numbers -/

/-- What becomes of a text of a finite number as a source: it has the value of the number if that
needs no exponent, and otherwise it is refused at the exponent mark. -/
structure Rereads (text : String) (x : Double) : Prop where
  value : x.IsPositional → ∃ y, evaluate text = .ok y ∧ y.equal x = true
  mark : ¬x.IsPositional → ∃ before rest, text.toList = before ++ 'e' :: rest ∧
    evaluate text = .error (.placed .lexing .invalidCharacter before.length)

/-- A zero is displayed as a numeral. -/
lemma rereads_display_zero (negative : Bool) {m : Magnitude} (hm : m.steps = 0) :
    Rereads (Double.display (.finite negative m)) (.finite negative m) := by
  have htext : (Double.display (.finite negative m)).toList =
      Double.signText false (Numeral.text ⟨digits 0, []⟩) := by
    rw [Double.display, String.toList_ofList, Double.displayChars, if_pos hm, Numeral.text_digits,
      digits_of_lt_ten (by decide)]
    rfl
  have hvalue : Numeral.value ⟨digits 0, []⟩ = .zero false := by
    rw [Numeral.value_digits, Double.ofNat]
    exact Decimal.ofRatio_zero false Nat.one_pos
  refine ⟨fun _ => ⟨.zero false, ?_, ?_⟩, fun h => absurd (Or.inl hm) h⟩
  · rw [evaluate, htext, evaluateChars_text (Numeral.isProper_digits 0), hvalue]
    rfl
  · simp [Double.equal, Double.zero, hm]

/-- A displayed finite number is a source of its value if it needs no exponent, and otherwise it is
refused at the exponent mark. -/
theorem rereads_display {x : Double} (h : x.isFinite = true) : Rereads x.display x := by
  cases x with
  | nan => cases h
  | infinite negative => cases h
  | finite negative m =>
    by_cases hm : m.steps = 0
    · exact rereads_display_zero negative hm
    have hlist : (Double.display (.finite negative m)).toList =
        Double.displayChars (.finite negative m) := String.toList_ofList
    obtain ⟨n, hproper, ⟨hpositional, hvalue, htext⟩ | ⟨hpositional, rest, htext⟩⟩ :=
      Double.displayChars_cases hm
    · refine ⟨fun _ => ⟨.finite negative m, ?_, by simp [Double.equal]⟩,
        fun hnot => absurd hpositional hnot⟩
      rw [evaluate, hlist, htext, evaluateChars_text hproper, hvalue]
      cases negative <;> rfl
    · refine ⟨fun hnot => absurd hnot hpositional,
        fun _ => ⟨Double.signText negative n.text, rest, ?_, ?_⟩⟩
      · rw [hlist, htext]
        cases negative <;> rfl
      · rw [evaluate, hlist, htext]
        exact evaluateChars_broken hproper negative rfl rfl rfl rest

end Calculator
