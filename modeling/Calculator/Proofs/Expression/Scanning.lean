import Calculator.Expression.Token
import Mathlib.Data.List.TakeWhile
import Mathlib.Tactic.Lemma

/-!
# Cutting a source into tokens

What the stream of a source says about the source: every token lies in it at the position that it
carries (`TokenStream.exists_of_mem_scan`), a complete stream ends behind the last character
(`TokenStream.length_of_scan`), and a broken one breaks off at an offending character
(`TokenStream.offends_of_scan`).

A source that is put together from two texts has the tokens of the one and then those of the other
(`TokenStream.scan_append`), unless a number would run over the seam.
-/

namespace Calculator

/-! ### Numbers at the beginning of a text -/

/-- Whether a character may stand in a number. -/
def isNumeric (c : Char) : Bool := c.isDigit || c = '.'

/-- Two texts of which no number runs over the seam. -/
def Apart (cs ts : List Char) : Prop :=
  ∀ a ∈ cs.getLast?, isNumeric a = true → ∀ b ∈ ts.head?, isNumeric b = false

/-- Only the end of the first text matters. -/
lemma Apart.of_append {xs ys ts : List Char} (h : Apart (xs ++ ys) ts) : Apart ys ts := by
  intro a ha
  refine h a ?_
  rw [List.getLast?_append, ha]
  rfl

/-- The first character of the first text does not matter. -/
lemma Apart.tail {c : Char} {cs ts : List Char} (h : Apart (c :: cs) ts) : Apart cs ts := by
  have h' : Apart ([c] ++ cs) ts := h
  exact h'.of_append

/-- Whatever begins with a character that stands in no number is apart. -/
lemma apart_cons (cs : List Char) {b : Char} (hb : isNumeric b = false) (ts : List Char) :
    Apart cs (b :: ts) := by
  intro a _ _ b' hb'
  cases hb'
  exact hb

/-- The digits at the beginning of a text stay the same when it goes on, unless the text consists of
digits and goes on with one. -/
lemma digits_append {xs ts : List Char}
    (h : (∀ c ∈ xs, c.isDigit = true) → ∀ b ∈ ts.head?, b.isDigit = false) :
    (xs ++ ts).takeWhile Char.isDigit = xs.takeWhile Char.isDigit ∧
      (xs ++ ts).dropWhile Char.isDigit = xs.dropWhile Char.isDigit ++ ts := by
  induction xs with
  | nil =>
    have hstop := h (by simp)
    cases ts with
    | nil => exact ⟨rfl, rfl⟩
    | cons b ts => simp [hstop b rfl]
  | cons x xs ih =>
    cases hx : x.isDigit with
    | false => simp [hx]
    | true =>
      have htail : (∀ c ∈ xs, c.isDigit = true) → ∀ b ∈ ts.head?, b.isDigit = false := by
        intro hall
        refine h ?_
        simpa [hx] using hall
      simp [hx, ih htail]

/-- A text whose last character is numeric is apart from a text that begins with no digit. -/
lemma Apart.not_digit {cs ts : List Char} (h : Apart cs ts) {a : Char} (ha : a ∈ cs.getLast?)
    (hnumeric : isNumeric a = true) {b : Char} (hb : b ∈ ts.head?) :
    b.isDigit = false ∧ b ≠ '.' := by
  simpa [isNumeric] using h a ha hnumeric b hb

namespace Numeral

/-- A number with a point. -/
lemma first_of_point {cs after : List Char} (h : cs.dropWhile Char.isDigit = '.' :: after) :
    first cs =
      if after.takeWhile Char.isDigit = [] then .error (cs.takeWhile Char.isDigit).length
      else .ok ⟨cs.takeWhile Char.isDigit, after.takeWhile Char.isDigit⟩ := by
  unfold first
  rw [h]
  rfl

/-- A number without a point. -/
lemma first_of_no_point {cs : List Char} (h : ∀ after, cs.dropWhile Char.isDigit ≠ '.' :: after) :
    first cs = .ok ⟨cs.takeWhile Char.isDigit, []⟩ := by
  unfold first
  split
  · next after hpoint => exact absurd hpoint (h after)
  · rfl

/-- The digits at the beginning of a text are followed by a point, or they are not. -/
lemma point_or_not (cs : List Char) :
    (∃ after, cs.dropWhile Char.isDigit = '.' :: after) ∨
      ∀ after, cs.dropWhile Char.isDigit ≠ '.' :: after := by
  by_cases h : ∃ after, cs.dropWhile Char.isDigit = '.' :: after
  · exact Or.inl h
  · exact Or.inr fun after hafter => h ⟨after, hafter⟩

/-- The number at the beginning of a text stays the same when the text goes on. -/
lemma first_append {c : Char} {cs ts : List Char} (h : Apart (c :: cs) ts) :
    first (c :: cs ++ ts) = first (c :: cs) := by
  have hwhole : (∀ d ∈ c :: cs, d.isDigit = true) →
      ∀ b ∈ ts.head?, b.isDigit = false ∧ b ≠ '.' := by
    intro hall b hb
    have hlast := List.getLast?_eq_some_getLast (l := c :: cs) (by simp)
    refine h.not_digit hlast ?_ hb
    simp [isNumeric, hall _ (List.getLast_mem (by simp))]
  obtain ⟨htake, hdrop⟩ := digits_append fun hall b hb => (hwhole hall b hb).1
  have hsplit := List.takeWhile_append_dropWhile (p := Char.isDigit) (l := c :: cs)
  rcases point_or_not (c :: cs) with ⟨after, hpoint⟩ | hpoint
  · have hfraction : (∀ e ∈ after, e.isDigit = true) → ∀ b ∈ ts.head?, b.isDigit = false := by
      intro hall b hb
      have hapart : Apart ('.' :: after) ts := by
        rw [← hsplit, hpoint] at h
        exact h.of_append
      have hlast := List.getLast?_eq_some_getLast (l := '.' :: after) (by simp)
      refine (hapart.not_digit hlast ?_ hb).1
      rcases List.mem_cons.mp (List.getLast_mem (l := '.' :: after) (by simp)) with hdot | hmem
      · rw [hdot]
        rfl
      · simp [isNumeric, hall _ hmem]
    have hpoint' : (c :: cs ++ ts).dropWhile Char.isDigit = '.' :: (after ++ ts) := by
      rw [hdrop, hpoint, List.cons_append]
    rw [first_of_point hpoint, first_of_point hpoint', htake, (digits_append hfraction).1]
  · have hpoint' : ∀ after, (c :: cs ++ ts).dropWhile Char.isDigit ≠ '.' :: after := by
      intro after heq
      rw [hdrop] at heq
      cases hrest : (c :: cs).dropWhile Char.isDigit with
      | nil =>
        -- The text consists of digits, so it does not go on with a point.
        rw [hrest, List.nil_append] at heq
        have hall : ∀ d ∈ c :: cs, d.isDigit = true := List.dropWhile_eq_nil_iff.mp hrest
        exact (hwhole hall '.' (by rw [heq]; rfl)).2 rfl
      | cons d rest =>
        rw [hrest, List.cons_append, List.cons.injEq] at heq
        exact hpoint rest (by rw [hrest, heq.1])
    rw [first_of_no_point hpoint, first_of_no_point hpoint', htake]

/-- Whether a numeral ends where a text begins: the text does not go on with a digit, nor with a
point if the numeral has none. -/
def EndsBefore (n : Numeral) (rest : List Char) : Prop :=
  ∀ d ∈ rest.head?, d.isDigit = false ∧ (n.fraction = [] → d ≠ '.')

/-- What is left of a text behind its first digits begins with none. -/
lemma isDigit_of_head?_dropWhile {cs : List Char} {d : Char}
    (h : d ∈ (cs.dropWhile Char.isDigit).head?) : d.isDigit = false := by
  have hnot := List.head?_dropWhile_not Char.isDigit cs
  rw [Option.mem_def.mp h] at hnot
  exact hnot

/-- The number at the beginning of a text is part of it, and ends before what is left of it. -/
lemma exists_of_first {cs : List Char} {n : Numeral} (h : first cs = .ok n) :
    ∃ rest, cs = n.text ++ rest ∧ n.EndsBefore rest := by
  have hsplit := List.takeWhile_append_dropWhile (p := Char.isDigit) (l := cs)
  rcases point_or_not cs with ⟨after, hpoint⟩ | hpoint
  · rw [first_of_point hpoint] at h
    have hafter := List.takeWhile_append_dropWhile (p := Char.isDigit) (l := after)
    split at h
    · cases h
    · next hfraction =>
      cases h
      refine ⟨after.dropWhile Char.isDigit, ?_, ?_⟩
      · rw [hpoint] at hsplit
        simp [text, hfraction, hafter, hsplit]
      · intro d hd
        exact ⟨isDigit_of_head?_dropWhile hd, fun hnone => absurd hnone hfraction⟩
  · rw [first_of_no_point hpoint] at h
    cases h
    refine ⟨cs.dropWhile Char.isDigit, by simp [text], ?_⟩
    intro d hd
    refine ⟨isDigit_of_head?_dropWhile hd, ?_⟩
    rintro - rfl
    obtain ⟨after, hafter⟩ := List.head?_eq_some_iff.mp hd
    exact hpoint after hafter

/-- A number that begins with a digit or a point has a character. -/
lemma text_ne_nil_of_first {c : Char} {cs : List Char} {n : Numeral}
    (hc : c.isDigit = true ∨ c = '.') (h : first (c :: cs) = .ok n) : n.text ≠ [] := by
  rcases point_or_not (c :: cs) with ⟨after, hpoint⟩ | hpoint
  · rw [first_of_point hpoint] at h
    split at h
    · cases h
    · next hfraction =>
      cases h
      simp [text, hfraction]
  · rw [first_of_no_point hpoint] at h
    cases h
    rcases hc with hdigit | rfl
    · simp [text, hdigit]
    · exact absurd rfl (hpoint cs)

/-- A number that breaks off does so at a point behind digits that no digit follows. -/
lemma exists_of_first_error {cs : List Char} {offset : Nat} (h : first cs = .error offset) :
    ∃ before after, cs = before ++ '.' :: after ∧ before.length = offset ∧
      (∀ d ∈ before, d.isDigit = true) ∧ ∀ d ∈ after.head?, d.isDigit = false := by
  have hsplit := List.takeWhile_append_dropWhile (p := Char.isDigit) (l := cs)
  rcases point_or_not cs with ⟨after, hpoint⟩ | hpoint
  · rw [first_of_point hpoint] at h
    split at h
    · next hfraction =>
      rw [hpoint] at hsplit
      refine ⟨_, after, hsplit.symm, Except.error.inj h, fun d hd => List.mem_takeWhile_imp hd, ?_⟩
      intro d hd
      cases after with
      | nil => cases hd
      | cons e after =>
        cases hd
        cases hdigit : d.isDigit with
        | false => rfl
        | true => simp [hdigit] at hfraction
    · cases h
  · rw [first_of_no_point hpoint] at h
    cases h

end Numeral

/-! ### One token after the other -/

/-- An offending character, with the text behind it: a point that no digit follows, or a character
that is no spacing and begins no token. -/
def Offends (c : Char) (after : List Char) : Prop :=
  (c = '.' ∧ ∀ d ∈ after.head?, d.isDigit = false) ∨
    (isSpacing c = false ∧ isNumeric c = false ∧ TokenKind.ofChar? c = none)

/-- A number, an operator or a parenthesis is no spacing. -/
lemma isSpacing_eq_false {c : Char} (h : isNumeric c = true ∨ (TokenKind.ofChar? c).isSome) :
    isSpacing c = false := by
  cases hspacing : isSpacing c with
  | false => rfl
  | true =>
    simp only [isSpacing, Text.isAsciiBlank, decide_eq_true_eq] at hspacing
    rcases hspacing with rfl | rfl | rfl | rfl | rfl | rfl <;> revert h <;> decide

/-- An operator or a parenthesis is its own text. -/
lemma TokenKind.text_of_ofChar? {c : Char} {kind : TokenKind} (h : ofChar? c = some kind) :
    kind.text = [c] := by
  unfold ofChar? at h
  split at h
  · next hc => cases h; rw [hc]; rfl
  · split at h
    · next hc => cases h; rw [hc]; rfl
    · simp only [Option.map_eq_some_iff] at h
      obtain ⟨op, hop, rfl⟩ := h
      have hsymbol : op.symbol = c := by simpa using List.find?_some hop
      rw [text, hsymbol]

/-- A single character is no number. -/
lemma TokenKind.ofChar?_ne_number (c : Char) (n : Numeral) : ofChar? c ≠ some (.number n) := by
  intro h
  unfold ofChar? at h
  split at h
  · cases h
  · split at h
    · cases h
    · simp at h

namespace TokenStream

/-- A stream that goes on with another one, unless it breaks off. -/
def append (first second : TokenStream) : TokenStream :=
  match first.ending with
  | .complete _ => ⟨first.tokens ++ second.tokens, second.ending⟩
  | .broken _ => first

/-- A first token stays the first. -/
lemma cons_append (token : Token) (first second : TokenStream) :
    (cons token first).append second = cons token (first.append second) := by
  obtain ⟨tokens, ending⟩ := first
  cases ending <;> rfl

/-- A stream that is broken does not go on. -/
lemma append_of_broken {first : TokenStream} {position : Nat}
    (h : first.ending = .broken position) (second : TokenStream) : first.append second = first := by
  simp only [append, h]

/-- A stream that is complete goes on. -/
lemma append_of_complete {first : TokenStream} {length : Nat}
    (h : first.ending = .complete length) (second : TokenStream) :
    first.append second = ⟨first.tokens ++ second.tokens, second.ending⟩ := by
  simp only [append, h]

/-- Spacing is skipped. -/
lemma scan_spacing (position : Nat) {c : Char} (hc : isSpacing c = true) (rest : List Char) :
    scan position (c :: rest) = scan (position + 1) rest := by
  rw [scan, if_pos hc]

/-- A number is a token. -/
lemma scan_number (position : Nat) {c : Char} {rest after : List Char} {n : Numeral}
    (hc : isNumeric c = true) (hfirst : Numeral.first (c :: rest) = .ok n)
    (hsplit : c :: rest = n.text ++ after) :
    scan position (c :: rest) =
      cons ⟨.number n, position⟩ (scan (position + n.text.length) after) := by
  have hc' : c.isDigit = true ∨ c = '.' := by simpa [isNumeric] using hc
  have hdrop : rest.drop (n.text.length - 1) = after := by
    cases htext : n.text with
    | nil => exact absurd htext (Numeral.text_ne_nil_of_first hc' hfirst)
    | cons d text =>
      rw [htext, List.cons_append, List.cons.injEq] at hsplit
      simp [hsplit.2]
  rw [scan, if_neg (by simp [isSpacing_eq_false (Or.inl hc)]), if_pos hc']
  simp only [hfirst, hdrop]

/-- A number that breaks off ends the stream. -/
lemma scan_broken_number (position : Nat) {c : Char} {rest : List Char} {offset : Nat}
    (hc : isNumeric c = true) (hfirst : Numeral.first (c :: rest) = .error offset) :
    scan position (c :: rest) = ⟨[], .broken (position + offset)⟩ := by
  have hc' : c.isDigit = true ∨ c = '.' := by simpa [isNumeric] using hc
  rw [scan, if_neg (by simp [isSpacing_eq_false (Or.inl hc)]), if_pos hc']
  simp only [hfirst]

/-- An operator or a parenthesis is a token. -/
lemma scan_sign (position : Nat) {c : Char} {kind : TokenKind} (hnumeric : isNumeric c = false)
    (hkind : TokenKind.ofChar? c = some kind) (rest : List Char) :
    scan position (c :: rest) = cons ⟨kind, position⟩ (scan (position + 1) rest) := by
  have hspacing : isSpacing c = false := isSpacing_eq_false (Or.inr (by rw [hkind]; rfl))
  have hc : ¬(c.isDigit = true ∨ c = '.') := by simpa [isNumeric] using hnumeric
  rw [scan, if_neg (by simp [hspacing]), if_neg hc]
  simp only [hkind]

/-- Any other character ends the stream. -/
lemma scan_stranger (position : Nat) {c : Char} (hspacing : isSpacing c = false)
    (hnumeric : isNumeric c = false) (hkind : TokenKind.ofChar? c = none) (rest : List Char) :
    scan position (c :: rest) = ⟨[], .broken position⟩ := by
  have hc : ¬(c.isDigit = true ∨ c = '.') := by simpa [isNumeric] using hnumeric
  rw [scan, if_neg (by simp [hspacing]), if_neg hc]
  simp only [hkind]

/-- What holds of the empty text and of every text that breaks off at once, and is kept by a
blank, a number or a sign in front, holds of every text. -/
lemma scan_induction {motive : List Char → Prop} (nil : motive [])
    (spacing : ∀ c rest, isSpacing c = true → motive rest → motive (c :: rest))
    (number : ∀ c rest after n, isNumeric c = true → Numeral.first (c :: rest) = .ok n →
      c :: rest = n.text ++ after → motive after → motive (c :: rest))
    (brokenNumber : ∀ c rest offset, isNumeric c = true →
      Numeral.first (c :: rest) = .error offset → motive (c :: rest))
    (sign : ∀ c rest kind, isNumeric c = false → TokenKind.ofChar? c = some kind → motive rest →
      motive (c :: rest))
    (stranger : ∀ c rest, isSpacing c = false → isNumeric c = false → TokenKind.ofChar? c = none →
      motive (c :: rest))
    (cs : List Char) : motive cs := by
  induction hlength : cs.length using Nat.strongRecOn generalizing cs with
  | ind length ih =>
    cases cs with
    | nil => exact nil
    | cons c rest =>
      subst hlength
      cases hspacing : isSpacing c with
      | true => exact spacing c rest hspacing (ih _ (by simp) rest rfl)
      | false =>
        cases hnumeric : isNumeric c with
        | true =>
          cases hfirst : Numeral.first (c :: rest) with
          | error offset => exact brokenNumber c rest offset hnumeric hfirst
          | ok n =>
            obtain ⟨after, hsplit, -⟩ := Numeral.exists_of_first hfirst
            have hne := Numeral.text_ne_nil_of_first (by simpa [isNumeric] using hnumeric) hfirst
            have hlt : after.length < (c :: rest).length := by
              rw [hsplit, List.length_append]
              exact Nat.lt_add_of_pos_left (List.length_pos_iff.mpr hne)
            exact number c rest after n hnumeric hfirst hsplit (ih _ hlt after rfl)
        | false =>
          cases hkind : TokenKind.ofChar? c with
          | some kind => exact sign c rest kind hnumeric hkind (ih _ (by simp) rest rfl)
          | none => exact stranger c rest hspacing hnumeric hkind

/-! ### Positions -/

/-- A complete stream ends behind the last character. -/
lemma length_of_scan {position length : Nat} {cs : List Char}
    (h : (scan position cs).ending = .complete length) : length = position + cs.length := by
  induction cs using scan_induction generalizing position with
  | nil =>
    rw [scan] at h
    cases h
    rfl
  | spacing c rest hc ih =>
    rw [scan_spacing position hc] at h
    rw [ih h, List.length_cons]
    omega
  | number c rest after n hc hfirst hsplit ih =>
    rw [scan_number position hc hfirst hsplit] at h
    rw [ih h, hsplit, List.length_append]
    omega
  | brokenNumber c rest offset hc hfirst =>
    rw [scan_broken_number position hc hfirst] at h
    cases h
  | sign c rest kind hnumeric hkind ih =>
    rw [scan_sign position hnumeric hkind] at h
    rw [ih h, List.length_cons]
    omega
  | stranger c rest hspacing hnumeric hkind =>
    rw [scan_stranger position hspacing hnumeric hkind] at h
    cases h

/-- A broken stream breaks off at an offending character. -/
lemma offends_of_scan {position offender : Nat} {cs : List Char}
    (h : (scan position cs).ending = .broken offender) :
    ∃ before c after, cs = before ++ c :: after ∧ offender = position + before.length ∧
      Offends c after := by
  induction cs using scan_induction generalizing position with
  | nil =>
    rw [scan] at h
    cases h
  | spacing c rest hc ih =>
    rw [scan_spacing position hc] at h
    obtain ⟨before, d, after, rfl, rfl, hoffends⟩ := ih h
    exact ⟨c :: before, d, after, rfl, by rw [List.length_cons]; omega, hoffends⟩
  | number c rest after n hc hfirst hsplit ih =>
    rw [scan_number position hc hfirst hsplit] at h
    obtain ⟨before, d, after', rfl, rfl, hoffends⟩ := ih h
    exact ⟨n.text ++ before, d, after', by rw [hsplit, List.append_assoc],
      by rw [List.length_append]; omega, hoffends⟩
  | brokenNumber c rest offset hc hfirst =>
    rw [scan_broken_number position hc hfirst] at h
    cases h
    obtain ⟨before, after, hsplit, rfl, -, hdigit⟩ := Numeral.exists_of_first_error hfirst
    exact ⟨before, '.', after, hsplit, rfl, Or.inl ⟨rfl, hdigit⟩⟩
  | sign c rest kind hnumeric hkind ih =>
    rw [scan_sign position hnumeric hkind] at h
    obtain ⟨before, d, after, rfl, rfl, hoffends⟩ := ih h
    exact ⟨c :: before, d, after, rfl, by rw [List.length_cons]; omega, hoffends⟩
  | stranger c rest hspacing hnumeric hkind =>
    rw [scan_stranger position hspacing hnumeric hkind] at h
    cases h
    exact ⟨[], c, rest, rfl, rfl, Or.inr ⟨hspacing, hnumeric, hkind⟩⟩

/-- Every token stands in the text at the position that it carries. -/
lemma exists_of_mem_scan {position : Nat} {cs : List Char} {token : Token}
    (h : token ∈ (scan position cs).tokens) :
    ∃ before after, cs = before ++ token.kind.text ++ after ∧
      token.position = position + before.length ∧ token.kind.text ≠ [] := by
  induction cs using scan_induction generalizing position with
  | nil =>
    rw [scan] at h
    cases h
  | spacing c rest hc ih =>
    rw [scan_spacing position hc] at h
    obtain ⟨before, after, hrest, hposition, hne⟩ := ih h
    exact ⟨c :: before, after, by rw [hrest]; rfl, by rw [List.length_cons]; omega, hne⟩
  | number c rest after n hc hfirst hsplit ih =>
    rw [scan_number position hc hfirst hsplit] at h
    rcases List.mem_cons.mp h with rfl | h
    · exact ⟨[], after, hsplit, rfl,
        Numeral.text_ne_nil_of_first (by simpa [isNumeric] using hc) hfirst⟩
    · obtain ⟨before, after', hrest, hposition, hne⟩ := ih h
      exact ⟨n.text ++ before, after', by rw [hsplit, hrest]; simp only [List.append_assoc],
        by rw [List.length_append]; omega, hne⟩
  | brokenNumber c rest offset hc hfirst =>
    rw [scan_broken_number position hc hfirst] at h
    cases h
  | sign c rest kind hnumeric hkind ih =>
    rw [scan_sign position hnumeric hkind] at h
    rcases List.mem_cons.mp h with rfl | h
    · have htext := TokenKind.text_of_ofChar? hkind
      exact ⟨[], rest, by rw [htext]; rfl, rfl, by rw [htext]; simp⟩
    · obtain ⟨before, after, hrest, hposition, hne⟩ := ih h
      exact ⟨c :: before, after, by rw [hrest]; rfl, by rw [List.length_cons]; omega, hne⟩
  | stranger c rest hspacing hnumeric hkind =>
    rw [scan_stranger position hspacing hnumeric hkind] at h
    cases h

/-- A number among the tokens begins with a digit or a point. -/
lemma isNumeric_of_mem_scan {position place : Nat} {cs : List Char} {n : Numeral} {d : Char}
    (h : ⟨.number n, place⟩ ∈ (scan position cs).tokens) (hd : n.text.head? = some d) :
    isNumeric d = true := by
  induction cs using scan_induction generalizing position with
  | nil =>
    rw [scan] at h
    cases h
  | spacing c rest hc ih =>
    rw [scan_spacing position hc] at h
    exact ih h
  | number c rest after n' hc hfirst hsplit ih =>
    rw [scan_number position hc hfirst hsplit] at h
    rcases List.mem_cons.mp h with heq | h
    · cases heq
      cases htext : n.text with
      | nil => rw [htext] at hd; cases hd
      | cons c' text =>
        rw [htext] at hd hsplit
        cases hd
        cases hsplit
        exact hc
    · exact ih h
  | brokenNumber c rest offset hc hfirst =>
    rw [scan_broken_number position hc hfirst] at h
    cases h
  | sign c rest kind hnumeric hkind ih =>
    rw [scan_sign position hnumeric hkind] at h
    rcases List.mem_cons.mp h with heq | h
    · cases heq
      exact absurd hkind (TokenKind.ofChar?_ne_number c n)
    · exact ih h
  | stranger c rest hspacing hnumeric hkind =>
    rw [scan_stranger position hspacing hnumeric hkind] at h
    cases h

/-- The position of a token lies in the text, and an operator or a parenthesis stands there. -/
lemma getElem?_of_mem_ofChars {cs : List Char} {token : Token} (h : token ∈ (ofChars cs).tokens) :
    token.position < cs.length ∧ cs[token.position]? = token.kind.text.head? := by
  obtain ⟨before, after, rfl, hposition, hne⟩ := exists_of_mem_scan h
  rw [Nat.zero_add] at hposition
  have hpos := List.length_pos_iff.mpr hne
  constructor
  · simp only [List.length_append]
    omega
  · rw [hposition, List.append_assoc, List.getElem?_append_right (Nat.le_refl _), Nat.sub_self,
      List.getElem?_append_left hpos, List.head?_eq_getElem?]

/-! ### Seams -/

/-- A text that goes on behind a seam has the tokens of both parts, up to where they break off. -/
lemma scan_append {cs ts : List Char} (h : Apart cs ts) (position : Nat) :
    scan position (cs ++ ts) =
      (scan position cs).append (scan (position + cs.length) ts) := by
  induction cs using scan_induction generalizing position with
  | nil =>
    rw [List.nil_append, scan]
    rfl
  | spacing c rest hc ih =>
    rw [List.cons_append, scan_spacing position hc, scan_spacing position hc,
      ih h.tail, List.length_cons]
    congr 2
    omega
  | number c rest after n hc hfirst hsplit ih =>
    have hfirst' : Numeral.first (c :: (rest ++ ts)) = .ok n :=
      (Numeral.first_append h).trans hfirst
    have hsplit' : c :: (rest ++ ts) = n.text ++ (after ++ ts) := by
      rw [← List.append_assoc, ← hsplit, List.cons_append]
    have hafter : Apart after ts := by
      rw [hsplit] at h
      exact h.of_append
    rw [List.cons_append, scan_number position hc hfirst hsplit,
      scan_number position hc hfirst' hsplit', ih hafter, cons_append, hsplit, List.length_append]
    congr 3
    omega
  | brokenNumber c rest offset hc hfirst =>
    have hfirst' : Numeral.first (c :: (rest ++ ts)) = .error offset :=
      (Numeral.first_append h).trans hfirst
    rw [List.cons_append, scan_broken_number position hc hfirst,
      scan_broken_number position hc hfirst']
    rfl
  | sign c rest kind hnumeric hkind ih =>
    rw [List.cons_append, scan_sign position hnumeric hkind, scan_sign position hnumeric hkind,
      ih h.tail, cons_append, List.length_cons]
    congr 3
    omega
  | stranger c rest hspacing hnumeric hkind =>
    rw [List.cons_append, scan_stranger position hspacing hnumeric hkind,
      scan_stranger position hspacing hnumeric hkind]
    rfl

end TokenStream

end Calculator
