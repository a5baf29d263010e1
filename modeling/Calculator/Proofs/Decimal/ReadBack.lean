import Calculator.Proofs.Display
import Calculator.Proofs.Double.Signs
import Calculator.Proofs.Expression.Decomposition

/-!
# Displayed numbers that are read back

A number on the display is read back as an equal number: `Double.ofText?_display` says so for every
finite number. The text of a decimal need not be read as the same coefficient and exponent, since
zeros may have been written, but as a decimal with the same double
(`Layout.exists_denotes_decimal`).

A text denotes a decimal (`Reading.Denotes`) if its characters are plain, so that nothing is done to
them before the number is read, and if it begins as a number, so that it is no name.
-/

namespace Calculator

/-! ### Signs -/

/-- The sign of the double of a decimal is apart from its size. -/
lemma Decimal.toDouble_true (d : Decimal) : d.toDouble true = -d.toDouble false := by
  rw [toDouble_eq, toDouble_eq]
  exact Double.ofSteps_not false _ _

/-- A decimal of the double of a magnitude has the magnitude with either sign. -/
lemma Decimal.toDouble_of_false {d : Decimal} {m : Magnitude}
    (h : d.toDouble false = .finite false m) (negative : Bool) :
    d.toDouble negative = .finite negative m := by
  cases negative with
  | false => exact h
  | true =>
    rw [toDouble_true, h]
    rfl

namespace Reading

/-! ### Plain characters -/

/-- Whether a character stands in a text as it is read: in ASCII, no blank and no low line. -/
def isPlain (c : Char) : Bool := c.toNat < 0x80 && !Text.isAsciiBlank c && c ≠ '_'

/-- The characters of numbers stand in front of the letters. -/
lemma val_le_of_isNumeric {c : Char} (h : isNumeric c = true) : c.val ≤ '9'.val := by
  simp only [isNumeric, Bool.or_eq_true, decide_eq_true_eq] at h
  rcases h with hdigit | rfl
  · have hbounds : '0'.val ≤ c.val ∧ c.val ≤ '9'.val := by simpa [Char.isDigit] using hdigit
    exact hbounds.2
  · decide

/-- The characters of numbers are plain. -/
lemma isPlain_of_isNumeric {c : Char} (h : isNumeric c = true) : isPlain c = true := by
  have hblank : Text.isAsciiBlank c = false := isSpacing_eq_false (Or.inl h)
  have hascii : c.toNat < 0x80 :=
    Nat.lt_of_le_of_lt (UInt32.le_iff_toNat_le.mp (val_le_of_isNumeric h)) (by decide)
  have hline : c ≠ '_' := by
    rintro rfl
    cases h
  simp [isPlain, hblank, hascii, hline]

/-- A plain text is in ASCII already. -/
lemma plain?_eq_some {cs : List Char} (h : ∀ c ∈ cs, isPlain c = true) : plain? cs = some cs := by
  induction cs with
  | nil => rfl
  | cons c cs ih =>
    have hascii : c.toNat < 0x80 := by
      have hc := h c List.mem_cons_self
      simp only [isPlain, Bool.and_eq_true, decide_eq_true_eq] at hc
      exact hc.1.1
    have hrest : plain? cs = some cs := ih fun b hb => h b (List.mem_cons_of_mem c hb)
    unfold plain? at hrest ⊢
    simp [List.mapM_cons, hascii, hrest]

/-- A plain text has no blanks at its ends. -/
lemma stripBy_eq_self {cs : List Char} (h : ∀ c ∈ cs, isPlain c = true) :
    Text.stripBy Text.isAsciiBlank cs = cs := by
  have hblank : ∀ c ∈ cs, Text.isAsciiBlank c = false := by
    intro c hc
    have hplain := h c hc
    simp only [isPlain, Bool.and_eq_true, Bool.not_eq_true'] at hplain
    exact hplain.1.2
  have hdrop : ∀ ds : List Char, (∀ c ∈ ds, c ∈ cs) → ds.dropWhile Text.isAsciiBlank = ds := by
    intro ds hds
    cases ds with
    | nil => rfl
    | cons d ds =>
      have hd : Text.isAsciiBlank d = false := hblank d (hds d List.mem_cons_self)
      rw [List.dropWhile_cons, hd]
      rfl
  rw [Text.stripBy, hdrop cs fun _ hc => hc, hdrop _ fun _ hc => List.mem_reverse.mp hc,
    List.reverse_reverse]

/-- A plain text has no low lines. -/
lemma joined?_eq_some {cs : List Char} (h : ∀ c ∈ cs, isPlain c = true) {previous : Char}
    (hprevious : previous ≠ '_') : joined? previous cs = some cs := by
  induction cs generalizing previous with
  | nil => rw [joined?, if_neg hprevious]
  | cons c cs ih =>
    have hline : c ≠ '_' := by
      have hc := h c List.mem_cons_self
      simp only [isPlain, Bool.and_eq_true, decide_eq_true_eq] at hc
      exact hc.2
    have hrest : joined? c cs = some cs := ih (fun b hb => h b (List.mem_cons_of_mem c hb)) hline
    rw [joined?, if_neg hline, if_neg fun hjoined => hprevious hjoined.1, hrest]
    rfl

/-- A plain text is read as it stands. -/
lemma ofChars?_eq_number? {cs : List Char} (h : ∀ c ∈ cs, isPlain c = true) :
    Double.ofChars? cs = number? cs := by
  have hspace : ' ' ≠ '_' := by decide
  simp only [Double.ofChars?, plain?_eq_some h, stripBy_eq_self h, joined?_eq_some h hspace,
    bind, Option.bind_some]

/-! ### Texts of decimals -/

/-- A text that denotes a decimal: its characters are plain, it begins as a number, and it is read
as the decimal. -/
structure Denotes (cs : List Char) (d : Decimal) : Prop where
  plain : ∀ c ∈ cs, isPlain c = true
  begins : ∃ c rest, cs = c :: rest ∧ isNumeric c = true
  decimal : decimal? cs = some d

/-- The characters of numbers are in lower case. -/
lemma toLower_of_isNumeric {c : Char} (h : isNumeric c = true) : c.toLower = c := by
  have hupper : ¬('A'.val ≤ c.val ∧ c.val ≤ 'Z'.val) := by
    rintro ⟨hlow, -⟩
    have hle := UInt32.le_trans hlow (val_le_of_isNumeric h)
    revert hle
    decide
  exact dif_neg hupper

/-- A sign in front of a text that begins as a number is taken off. -/
lemma splitSign_signText (negative : Bool) {c : Char} (h : isNumeric c = true)
    (rest : List Char) :
    splitSign (Double.signText negative (c :: rest)) = (negative, c :: rest) := by
  cases negative with
  | true => rfl
  | false =>
    rw [Double.signText, if_neg (by decide)]
    unfold splitSign
    split
    · next heq =>
      cases heq
      cases h
    · next heq =>
      cases heq
      cases h
    · rfl

/-- A text that begins as a number is no name. -/
lemma number?_signText (negative : Bool) {c : Char} (h : isNumeric c = true)
    (rest : List Char) :
    number? (Double.signText negative (c :: rest)) =
      (decimal? (c :: rest)).map (·.toDouble negative) := by
  have hname : ∀ {d : Char} {name : List Char}, isNumeric d = false →
      String.ofList ((c :: rest).map Char.toLower) ≠ String.ofList (d :: name) := by
    intro d name hd heq
    have hcons : c :: rest.map Char.toLower = d :: name := by
      rw [← toLower_of_isNumeric h]
      exact String.ofList_injective heq
    cases hcons
    cases h.symm.trans hd
  have hnan : String.ofList ((c :: rest).map Char.toLower) ≠ "nan" := hname (d := 'n') rfl
  have hinf : String.ofList ((c :: rest).map Char.toLower) ≠ "inf" := hname (d := 'i') rfl
  have hinfinity : String.ofList ((c :: rest).map Char.toLower) ≠ "infinity" :=
    hname (d := 'i') rfl
  simp only [number?, splitSign_signText negative h, hnan, hinf, hinfinity, or_self, if_false]

/-- A text that denotes a decimal is read as the double of the decimal, with its sign. -/
theorem Denotes.ofChars?_signText {cs : List Char} {d : Decimal} (h : Denotes cs d)
    (negative : Bool) :
    Double.ofChars? (Double.signText negative cs) = some (d.toDouble negative) := by
  obtain ⟨c, rest, rfl, hnumeric⟩ := h.begins
  have hplain : ∀ b ∈ Double.signText negative (c :: rest), isPlain b = true := by
    cases negative with
    | false => exact h.plain
    | true => exact List.forall_mem_cons.mpr ⟨by decide, h.plain⟩
  rw [ofChars?_eq_number? hplain, number?_signText negative hnumeric, h.decimal]
  rfl

/-! ### Exponents -/

/-- What the text behind the digits says of the exponent. -/
def exponentBehind? : List Char → Option Int
  | [] => some 0
  | mark :: after => if mark = 'e' ∨ mark = 'E' then exponent? after else none

/-- Padded digits have the value of the number. -/
lemma digitsValue_paddedDigits (width n : Nat) : digitsValue (paddedDigits width n) = n := by
  rw [paddedDigits, digitsValue_append, digitsValue_zeros, digitsValue_digits, Nat.zero_mul,
    Nat.zero_add]

/-- Padded digits are digits. -/
lemma isDigit_of_mem_paddedDigits {width n : Nat} {c : Char} (h : c ∈ paddedDigits width n) :
    c.isDigit = true := by
  rcases List.mem_append.mp h with hzero | hdigit
  · rw [List.eq_of_mem_replicate hzero]
    rfl
  · exact isDigit_of_mem_digits hdigit

/-- A written exponent is read back. -/
lemma exponentBehind?_exponentText (e : Int) :
    exponentBehind? (Layout.plain.exponentText e) = some e := by
  have hne : paddedDigits 2 e.natAbs ≠ [] := List.append_ne_nil_of_right_ne_nil _ (digits_ne_nil _)
  have hdigits : (paddedDigits 2 e.natAbs).all Char.isDigit = true :=
    List.all_eq_true.mpr fun _ => isDigit_of_mem_paddedDigits
  have hvalue : digitsValue (paddedDigits 2 e.natAbs) = e.natAbs := digitsValue_paddedDigits 2 _
  simp only [Layout.exponentText, Layout.plain, exponentBehind?, true_or, if_true]
  by_cases hneg : e < 0
  · simp only [hneg, if_true, exponent?, splitSign, hne, hdigits, hvalue, not_true_eq_false,
      or_self, if_false]
    congr 1
    omega
  · simp only [hneg, if_false, exponent?, splitSign, hne, hdigits, hvalue, not_true_eq_false,
      or_self, Bool.false_eq_true]
    congr 1
    omega

end Reading

namespace Numeral

/-! ### Numerals -/

/-- The decimal of a numeral with an exponent. -/
def scaled (n : Numeral) (exponent : Int) : Decimal :=
  ⟨digitsValue (n.whole ++ n.fraction), exponent - n.fraction.length⟩

/-- A numeral without an exponent has the double of its decimal. -/
lemma toDouble_scaled_zero (n : Numeral) : (n.scaled 0).toDouble false = n.value := by
  rw [scaled, Int.zero_sub]
  rfl

/-- A number with a point is read with the exponent behind its fraction. -/
lemma decimal?_of_point {cs after : List Char} (h : cs.dropWhile Char.isDigit = '.' :: after)
    (hdigit : after.takeWhile Char.isDigit ≠ []) :
    Reading.decimal? cs = (Reading.exponentBehind? (after.dropWhile Char.isDigit)).map
      (scaled ⟨cs.takeWhile Char.isDigit, after.takeWhile Char.isDigit⟩) := by
  unfold Reading.decimal?
  rw [h]
  simp only [hdigit, and_false, if_false]
  cases after.dropWhile Char.isDigit with
  | nil => rfl
  | cons mark rest =>
    simp only [Reading.exponentBehind?]
    split <;> rfl

/-- A number without a point is read with the exponent behind it. -/
lemma decimal?_of_no_point {cs : List Char}
    (h : ∀ after, cs.dropWhile Char.isDigit ≠ '.' :: after)
    (hdigit : cs.takeWhile Char.isDigit ≠ []) :
    Reading.decimal? cs = (Reading.exponentBehind? (cs.dropWhile Char.isDigit)).map
      (scaled ⟨cs.takeWhile Char.isDigit, []⟩) := by
  unfold Reading.decimal?
  simp only [hdigit, false_and, if_false]
  cases cs.dropWhile Char.isDigit with
  | nil => rfl
  | cons mark rest =>
    simp only [Reading.exponentBehind?]
    split <;> rfl

/-- A numeral is read with the exponent behind it. -/
lemma decimal?_text_append {n : Numeral} (h : n.IsProper) {rest : List Char}
    (ends : n.EndsBefore rest) :
    Reading.decimal? (n.text ++ rest) = (Reading.exponentBehind? rest).map n.scaled := by
  obtain ⟨hwhole, hdrop⟩ := h.digits_text_append ends
  by_cases hfraction : n.fraction = []
  · rw [if_pos hfraction] at hdrop
    have hdigit : (n.text ++ rest).takeWhile Char.isDigit ≠ [] := by
      rw [hwhole]
      exact h.digit.resolve_right fun hne => hne hfraction
    rw [decimal?_of_no_point (h.no_point ends hfraction) hdigit, hwhole, hdrop, ← hfraction]
  · rw [if_neg hfraction] at hdrop
    obtain ⟨hdigits, hbehind⟩ := digits_append_eq h.fraction fun d hd => (ends d hd).1
    have hdigit : (n.fraction ++ rest).takeWhile Char.isDigit ≠ [] := by
      rw [hdigits]
      exact hfraction
    rw [decimal?_of_point hdrop hdigit, hwhole, hdigits, hbehind]

/-- A numeral denotes its decimal with the exponent behind it. -/
lemma denotes_text_append {n : Numeral} (h : n.IsProper) {rest : List Char}
    (ends : n.EndsBefore rest) (plain : ∀ c ∈ rest, Reading.isPlain c = true) {exponent : Int}
    (hexponent : Reading.exponentBehind? rest = some exponent) :
    Reading.Denotes (n.text ++ rest) (n.scaled exponent) := by
  have hnumeric : ∀ c ∈ n.text, isNumeric c = true := h.isNumberText.chars.1
  obtain ⟨c, text, htext, hc⟩ := exists_text_eq_cons h
  refine ⟨?_, ⟨c, text ++ rest, by rw [htext, List.cons_append], hc⟩, ?_⟩
  · exact List.forall_mem_append.mpr
      ⟨fun b hb => Reading.isPlain_of_isNumeric (hnumeric b hb), plain⟩
  · rw [decimal?_text_append h ends, hexponent]
    rfl

/-- A numeral alone denotes its decimal. -/
lemma denotes_text {n : Numeral} (h : n.IsProper) : Reading.Denotes n.text (n.scaled 0) := by
  have hdenotes := denotes_text_append h n.endsBefore_nil (fun _ hc => nomatch hc) rfl
  rwa [List.append_nil] at hdenotes

/-- A numeral in front of an exponent denotes its decimal with that exponent. -/
lemma denotes_text_exponentText {n : Numeral} (h : n.IsProper) (exponent : Int) :
    Reading.Denotes (n.text ++ Layout.plain.exponentText exponent) (n.scaled exponent) := by
  refine denotes_text_append h (n.endsBefore_cons rfl _) ?_
    (Reading.exponentBehind?_exponentText exponent)
  intro c hc
  rcases List.mem_cons.mp hc with rfl | hc
  · decide
  · rcases List.mem_cons.mp hc with rfl | hdigit
    · split <;> decide
    · have hdigit : c.isDigit = true := Reading.isDigit_of_mem_paddedDigits hdigit
      exact Reading.isPlain_of_isNumeric (by rw [isNumeric, hdigit, Bool.true_or])

end Numeral

/-! ### Decimals and doubles -/

/-- The text of a decimal denotes a decimal with the same double. -/
theorem Layout.exists_denotes_decimal (d : Decimal) :
    ∃ d', Reading.Denotes (plain.decimal d) d' ∧ d'.toDouble false = d.toDouble false := by
  by_cases h : -4 ≤ d.leading ∧ d.leading < 16
  · obtain ⟨n, hproper, htext, hvalue⟩ := decimal_of_positional d h
    refine ⟨n.scaled 0, ?_, ?_⟩
    · rw [htext]
      exact Numeral.denotes_text hproper
    · rw [n.toDouble_scaled_zero, hvalue]
  · obtain ⟨n, hproper, htext, hscaled⟩ := decimal_of_exponential d h
    refine ⟨n.scaled d.leading, ?_, ?_⟩
    · rw [htext]
      exact Numeral.denotes_text_exponentText hproper d.leading
    · rw [Numeral.scaled, ← hscaled]

namespace Double

/-- A magnitude other than zero is displayed as the text of a decimal whose double it is. -/
lemma exists_denotes_displayChars {m : Magnitude} (hm : m.steps ≠ 0) :
    ∃ cs d, Reading.Denotes cs d ∧ d.toDouble false = .finite false m ∧
      ∀ negative, displayChars (.finite negative m) = signText negative cs := by
  rcases displayChars_eq hm with ⟨k, hwhole, hchars⟩ | ⟨-, hchars⟩
  · obtain ⟨hsteps, -⟩ := Magnitude.steps_of_displayedWhole? hwhole
    refine ⟨_, _, Numeral.denotes_text (Numeral.isProper_digits k), ?_, fun negative => ?_⟩
    · rw [Numeral.toDouble_scaled_zero, Numeral.value_digits, ofNat, ofRatio, ← hsteps,
        ofSteps_steps]
    · rw [hchars, Numeral.text_digits]
  · obtain ⟨d, hdenotes, hdouble⟩ := Layout.exists_denotes_decimal m.shortest
    rw [m.toDouble_shortest] at hdouble
    exact ⟨_, d, hdenotes, hdouble, hchars⟩

/-- A finite number on the display is read back as an equal number. -/
theorem ofText?_display {x : Double} (h : x.isFinite = true) :
    ∃ y, ofText? x.display = some y ∧ y.equal x = true := by
  have hlist : x.display.toList = x.displayChars := String.toList_ofList
  rw [ofText?, hlist]
  cases x with
  | nan => cases h
  | infinite negative => cases h
  | finite negative m =>
    by_cases hm : m.steps = 0
    · refine ⟨.zero false, ?_, by simp [equal, zero, hm]⟩
      rw [displayChars, if_pos hm]
      decide +kernel
    · obtain ⟨cs, d, hdenotes, hdouble, htext⟩ := exists_denotes_displayChars hm
      refine ⟨.finite negative m, ?_, by simp [equal]⟩
      rw [htext, hdenotes.ofChars?_signText, Decimal.toDouble_of_false hdouble]

end Double

end Calculator
