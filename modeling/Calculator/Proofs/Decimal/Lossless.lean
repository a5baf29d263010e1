import Calculator.Proofs.Decimal.ReadBack

/-!
# The display loses nothing

A finite number is read back from the display, so different numbers are displayed differently
(`Double.display_eq_iff`). A whole number below `10 ^ 16` is displayed by its digits alone
(`Double.IsWhole.displayChars_eq`). Every other number has a fraction or an exponent on the display,
and the fraction is never a lone zero: a text that ends in one denotes a whole number, which would
have been displayed without it (`Double.not_point_zero_suffix`).
-/

namespace Calculator

/-! ### Digits -/

/-- The digits of a number other than zero do not begin with a zero. -/
lemma head?_digits {n : Nat} (h : (digits n).head? = some '0') : n = 0 := by
  induction n using Nat.strongRecOn with
  | _ n ih =>
    by_cases hn : n < 10
    · rw [digits_of_lt_ten hn, List.head?_cons, Option.some.injEq] at h
      have hvalue := digitValue_digitChar hn
      rw [h] at hvalue
      exact hvalue.symm
    · have htenth : (digits (n / 10)).head? = some '0' := by
        rw [digits_of_ten_le (by omega), List.head?_append] at h
        obtain ⟨c, rest, hdigits⟩ := List.exists_cons_of_ne_nil (digits_ne_nil (n / 10))
        rw [hdigits] at h ⊢
        exact h
      have hzero := ih (n / 10) (by omega) htenth
      omega

/-- There are at least as many padded digits as asked for. -/
lemma le_length_paddedDigits (width n : Nat) : width ≤ (paddedDigits width n).length := by
  rw [paddedDigits, List.length_append, List.length_replicate]
  omega

/-- A point stands in no digits. -/
lemma not_point_zero_suffix_of_digits {ds : List Char} (h : ∀ c ∈ ds, c.isDigit = true) :
    ¬['.', '0'] <:+ ds := by
  intro hsuffix
  have hpoint : Char.isDigit '.' = true := h '.' (hsuffix.mem List.mem_cons_self)
  cases hpoint

/-- A sign does not change how a text ends. -/
lemma Double.point_zero_suffix_of_signText {negative : Bool} {cs : List Char}
    (h : ['.', '0'] <:+ signText negative cs) : ['.', '0'] <:+ cs := by
  cases negative with
  | false => exact h
  | true =>
    rcases List.suffix_cons_iff.mp h with heq | hsuffix
    · cases heq
    · exact hsuffix

/-! ### Whole magnitudes -/

namespace Magnitude

/-- A whole number is rounded to a whole number. -/
lemma one_dvd_nearest {steps : Nat} (h : one ∣ steps) : one ∣ nearest steps 1 := by
  by_cases hgap : gap steps ∣ steps
  · rw [nearest_self hgap]
    exact h
  · -- The spacing does not divide the number one, so it is a multiple of it.
    have hspacing : one ∣ gap steps := by
      rcases Nat.le_total (steps.log2 + 1 - precision) scale with hle | hle
      · exact absurd (Nat.dvd_trans (Nat.pow_dvd_pow 2 hle) h) hgap
      · exact Nat.pow_dvd_pow 2 hle
    rw [nearest, Nat.div_one]
    exact Nat.dvd_trans hspacing (Nat.dvd_mul_left _ _)

/-- The magnitude nearest to a whole number is whole. -/
lemma one_dvd_of_ofNat {m : Magnitude} {n : Nat} (h : Double.ofNat n = .finite false m) :
    one ∣ m.steps := by
  rw [Double.ofNat, Double.ofRatio, Double.ofSteps] at h
  split at h
  · cases h
    exact one_dvd_nearest (Nat.dvd_mul_left one n)
  · cases h

/-- A whole magnitude below `10 ^ 16` is displayed as one. -/
lemma displayedWhole?_eq_some {m : Magnitude} {n : Nat} (hsteps : m.steps = n * one)
    (hlt : n < 10 ^ wholeDigits) : m.displayedWhole? = some n := by
  have hdiv : m.steps / one = n := by rw [hsteps, Nat.mul_div_cancel n one_pos]
  have hmod : m.steps % one = 0 := by rw [hsteps, Nat.mul_mod_left]
  rw [displayedWhole?, hdiv, if_pos ⟨hmod, hlt⟩]

end Magnitude

/-! ### How a text ends -/

/-- A numeral whose text ends in a lone zero behind the point has no other fraction. -/
lemma Numeral.fraction_eq_of_suffix {n : Numeral} (h : n.IsProper)
    (hsuffix : ['.', '0'] <:+ n.text) : n.fraction = ['0'] := by
  by_cases hfraction : n.fraction = []
  · rw [text, if_pos hfraction] at hsuffix
    exact absurd hsuffix (not_point_zero_suffix_of_digits h.whole)
  · rw [text, if_neg hfraction] at hsuffix
    have hbehind : '.' :: n.fraction <:+ n.whole ++ '.' :: n.fraction := List.suffix_append _ _
    rcases List.suffix_or_suffix_of_suffix hsuffix hbehind with hshort | hlong
    · rcases List.suffix_cons_iff.mp hshort with heq | hdigits
      · exact (List.cons.inj heq).2.symm
      · exact absurd hdigits (not_point_zero_suffix_of_digits h.fraction)
    · -- The fraction has a digit, so nothing is left in front of the point.
      have hlength : 2 ≤ ('.' :: n.fraction).length := by
        have hpos := List.length_pos_iff.mpr hfraction
        rw [List.length_cons]
        omega
      exact (List.cons.inj (hlong.eq_of_length_le hlength)).2

/-- A numeral with a lone zero behind the point has a whole number for its value. -/
lemma Numeral.value_of_fraction {n : Numeral} (h : n.fraction = ['0']) :
    n.value = .ofNat (digitsValue n.whole) := by
  have hdigits : digitsValue (n.whole ++ ['0']) = digitsValue n.whole * 10 ^ 1 := by
    rw [digitsValue_append]
    rfl
  have hexponent : -((['0'].length : Nat) : Int) = 0 - ((1 : Nat) : Int) := rfl
  rw [value, h, hdigits, hexponent, Decimal.toDouble_shift, Decimal.toDouble_eq]
  simp only [Int.neg_zero, Int.toNat_zero, Nat.pow_zero, Nat.mul_one]
  rfl

/-- A text with an exponent ends in digits. -/
lemma Layout.not_point_zero_suffix_exponentText (cs : List Char) (e : Int) :
    ¬['.', '0'] <:+ cs ++ plain.exponentText e := by
  intro hsuffix
  have hbehind : paddedDigits plain.exponentWidth e.natAbs <:+ cs ++ plain.exponentText e := by
    rw [exponentText]
    exact List.suffix_append_of_suffix
      ((List.suffix_cons _ _).trans (List.suffix_cons _ _))
  have hlength : ['.', '0'].length ≤ (paddedDigits plain.exponentWidth e.natAbs).length :=
    le_length_paddedDigits 2 _
  have hdigits := List.suffix_of_suffix_length_le hsuffix hbehind hlength
  exact not_point_zero_suffix_of_digits (fun _ => Reading.isDigit_of_mem_paddedDigits) hdigits

/-- If the shortest decimal of a magnitude is written with a lone zero behind the point, then the
magnitude is displayed as a whole number. -/
lemma Magnitude.displayedWhole?_ne_none {m : Magnitude} (hm : m.steps ≠ 0)
    (h : ['.', '0'] <:+ Layout.plain.decimal m.shortest) : m.displayedWhole? ≠ none := by
  by_cases hleading : -4 ≤ m.shortest.leading ∧ m.shortest.leading < 16
  · obtain ⟨n, hproper, htext, hvalue⟩ := Layout.decimal_of_positional m.shortest hleading
    rw [htext] at h
    have hfraction := Numeral.fraction_eq_of_suffix hproper h
    have hwhole : Double.ofNat (digitsValue n.whole) = .finite false m := by
      rw [← Numeral.value_of_fraction hfraction, hvalue, m.toDouble_shortest]
    obtain ⟨k, hk⟩ := one_dvd_of_ofNat hwhole
    have hsteps : m.steps = k * one := by rw [hk, Nat.mul_comm]
    have hlt : k < 10 ^ wholeDigits := by
      have hbound := (((leading_shortest_iff hm).mp hleading).resolve_left hm).2
      rw [hsteps] at hbound
      exact Nat.lt_of_mul_lt_mul_right hbound
    rw [displayedWhole?_eq_some hsteps hlt]
    exact Option.some_ne_none k
  · obtain ⟨n, -, htext, -⟩ := Layout.decimal_of_exponential m.shortest hleading
    rw [htext] at h
    exact absurd h (Layout.not_point_zero_suffix_exponentText _ _)

namespace Double

/-! ### Whole numbers -/

/-- The number is the whole number `n`. -/
inductive IsWhole (n : Int) : Double → Prop
  | finite {negative : Bool} {m : Magnitude}
      (value : signed negative m.steps = n * Magnitude.one) : IsWhole n (.finite negative m)

instance (n : Int) : (x : Double) → Decidable (x.IsWhole n)
  | .finite negative m =>
    decidable_of_iff (signed negative m.steps = n * Magnitude.one) ⟨.finite, fun | .finite h => h⟩
  | .nan => isFalse nofun
  | .infinite _ => isFalse nofun

/-- The size of a whole number, and its sign if it is not zero. -/
lemma IsWhole.size {n : Int} {negative : Bool} {m : Magnitude}
    (h : IsWhole n (.finite negative m)) :
    m.steps = n.natAbs * Magnitude.one ∧ (m.steps ≠ 0 → negative = decide (n < 0)) := by
  have hone : (0 : Int) ≤ Magnitude.one := Int.natCast_nonneg _
  obtain ⟨hsigned⟩ := h
  constructor
  · have hsize : (signed negative m.steps).natAbs = m.steps := by
      cases negative with
      | false => exact Int.natAbs_natCast _
      | true => exact (Int.natAbs_neg _).trans (Int.natAbs_natCast _)
    rw [← hsize, hsigned, Int.natAbs_mul, Int.natAbs_natCast]
  · intro hm
    have hpos : (0 : Int) < m.steps := Int.natCast_pos.mpr (Nat.pos_of_ne_zero hm)
    cases negative with
    | false =>
      have hlt : 0 * (Magnitude.one : Int) < n * Magnitude.one := by
        rw [← hsigned, Int.zero_mul]
        exact hpos
      have hn : 0 < n := Int.lt_of_mul_lt_mul_right hlt hone
      exact (decide_eq_false (Int.not_lt.mpr (Int.le_of_lt hn))).symm
    | true =>
      have hlt : n * (Magnitude.one : Int) < 0 * Magnitude.one := by
        rw [← hsigned, Int.zero_mul]
        exact Int.neg_neg_of_pos hpos
      exact (decide_eq_true (Int.lt_of_mul_lt_mul_right hlt hone)).symm

/-- A whole number below `10 ^ 16` is displayed by its digits, behind a minus sign if it is below
zero. -/
lemma IsWhole.displayChars_eq {n : Int} {x : Double} (h : x.IsWhole n)
    (hlt : n.natAbs < 10 ^ Magnitude.wholeDigits) :
    x.displayChars = signText (n < 0) (digits n.natAbs) := by
  cases x with
  | nan => cases h
  | infinite negative => cases h
  | finite negative m =>
    obtain ⟨hsteps, hnegative⟩ := h.size
    by_cases hm : m.steps = 0
    · have hn : n = 0 := by
        rw [hm] at hsteps
        have hone : Magnitude.one ≠ 0 := Nat.ne_of_gt Magnitude.one_pos
        have hzero := (Nat.mul_eq_zero.mp hsteps.symm).resolve_right hone
        exact Int.natAbs_eq_zero.mp hzero
      rw [displayChars, if_pos hm, hn, Int.natAbs_zero, digits_of_lt_ten (by decide)]
      rfl
    · have hwhole := Magnitude.displayedWhole?_eq_some hsteps hlt
      rw [displayChars, if_neg hm, hwhole, hnegative hm]

/-- A number that ends in a lone zero behind the point on the display would be a whole number below
`10 ^ 16`, but those are displayed without it. -/
lemma not_point_zero_suffix (x : Double) (h : x.isFinite = true) :
    ¬['.', '0'] <:+ x.displayChars := by
  intro hsuffix
  cases x with
  | nan => cases h
  | infinite negative => cases h
  | finite negative m =>
    by_cases hm : m.steps = 0
    · rw [displayChars, if_pos hm] at hsuffix
      rcases List.suffix_cons_iff.mp hsuffix with heq | hnil
      · cases heq
      · cases List.suffix_nil.mp hnil
    · rcases displayChars_eq hm with ⟨k, -, hchars⟩ | ⟨hnone, hchars⟩
      · rw [hchars] at hsuffix
        exact not_point_zero_suffix_of_digits (fun _ => isDigit_of_mem_digits)
          (point_zero_suffix_of_signText hsuffix)
      · rw [hchars] at hsuffix
        exact Magnitude.displayedWhole?_ne_none hm (point_zero_suffix_of_signText hsuffix) hnone

/-! ### Equal numbers -/

/-- Numbers that are equal to the same number are equal. -/
lemma equal_of_equal {a x y : Double} (hx : a.equal x = true) (hy : a.equal y = true) :
    x.equal y = true := by
  cases a with
  | nan => cases hx
  | infinite negative =>
    cases x <;> cases y <;> simp_all [equal]
  | finite negative m =>
    cases x with
    | nan | infinite => cases hx
    | finite s p =>
      cases y with
      | nan | infinite => cases hy
      | finite t q =>
        simp only [equal, decide_eq_true_eq] at hx hy ⊢
        obtain ⟨hp, hs⟩ := hx
        obtain ⟨hq, ht⟩ := hy
        refine ⟨hp.symm.trans hq, ?_⟩
        rcases hs with rfl | hzero
        · exact ht.imp_right hp.symm.trans
        · exact Or.inr (hp.symm.trans hzero)

/-- Equal numbers that are finite are displayed alike. -/
lemma display_of_equal {x y : Double} (hx : x.isFinite = true) (h : x.equal y = true) :
    x.display = y.display := by
  cases x with
  | nan => cases hx
  | infinite negative => cases hx
  | finite negative m =>
    cases y with
    | nan => cases h
    | infinite negative' => cases h
    | finite negative' m' =>
      simp only [equal, decide_eq_true_eq] at h
      obtain ⟨hsteps, hsign⟩ := h
      obtain rfl := Magnitude.ext hsteps
      rcases hsign with rfl | hzero
      · rfl
      · simp only [display, displayChars, hzero, if_true]

/-- Two finite numbers are displayed alike just when they are equal. -/
theorem display_eq_iff {x y : Double} (hx : x.isFinite = true) (hy : y.isFinite = true) :
    x.display = y.display ↔ x.equal y = true := by
  constructor
  · intro hdisplay
    obtain ⟨a, hread, hax⟩ := ofText?_display hx
    obtain ⟨b, hread', hby⟩ := ofText?_display hy
    rw [hdisplay, hread', Option.some.injEq] at hread
    exact equal_of_equal hax (hread ▸ hby)
  · exact display_of_equal hx

/-! ### The display -/

/-- The display of a finite number is read back as an equal number, and two finite numbers are
displayed alike just when they are equal. Both zeros are displayed as `0`, a whole number below
`10 ^ 16` is displayed by digits that do not begin with a zero, behind a minus sign if it is below
zero, and no display ends in a lone zero behind the point. -/
theorem display_loses_nothing {x : Double} (h : x.isFinite = true) :
    (∃ y, ofText? x.display = some y ∧ y.equal x = true) ∧
    (∀ y : Double, y.isFinite = true → (x.display = y.display ↔ x.equal y = true)) ∧
    (x.isZero = true → x.display = "0") ∧
    (∀ n : Int, x.IsWhole n → n.natAbs < 10 ^ (16 : Nat) →
      ∃ ds, x.display.toList = signText (n < 0) ds ∧ digitsValue ds = n.natAbs ∧ ds ≠ [] ∧
        (∀ c ∈ ds, c.isDigit = true) ∧ (ds.head? = some '0' → ds = ['0'])) ∧
    ¬['.', '0'] <:+ x.display.toList := by
  have hlist : x.display.toList = x.displayChars := String.toList_ofList
  refine ⟨ofText?_display h, fun y hy => display_eq_iff h hy, fun hzero => ?_,
    fun n hn hlt => ?_, ?_⟩
  · obtain ⟨negative, rfl⟩ := exists_eq_zero hzero
    exact display_zero negative
  · refine ⟨digits n.natAbs, ?_, digitsValue_digits _, digits_ne_nil _,
      fun _ => isDigit_of_mem_digits, fun hhead => ?_⟩
    · rw [hlist, hn.displayChars_eq hlt]
    · rw [head?_digits hhead]
      exact digits_of_lt_ten (by decide)
  · rw [hlist]
    exact not_point_zero_suffix x h

/-- Beyond `2 ^ 53` not every whole number is a double, but those that are doubles are displayed by
their digits. -/
theorem display_loses_nothing_beyond_precision :
    (ofNat 9007199254740994).isFinite = true ∧
      (ofNat 9007199254740994).IsWhole 9007199254740994 ∧
      ∃ ds, (ofNat 9007199254740994).display.toList = ds ∧ digitsValue ds = 9007199254740994 ∧
        ds.head? ≠ some '0' := by
  have hfinite : (ofNat 9007199254740994).isFinite = true := by decide +kernel
  have hwhole : (ofNat 9007199254740994).IsWhole 9007199254740994 := by decide +kernel
  have hsmall : (9007199254740994 : Int).natAbs < 10 ^ (16 : Nat) := by decide
  obtain ⟨-, -, -, hdigits, -⟩ := display_loses_nothing hfinite
  obtain ⟨ds, htext, hvalue, -, -, hhead⟩ := hdigits 9007199254740994 hwhole hsmall
  refine ⟨hfinite, hwhole, ds, htext, hvalue, fun hzero => ?_⟩
  rw [hhead hzero] at hvalue
  exact absurd hvalue (by decide)

end Double

end Calculator
