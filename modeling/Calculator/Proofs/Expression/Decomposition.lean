import Calculator.Proofs.Expression.Numerals
import Mathlib.Order.Bounds.Basic

/-!
# The decomposition of a source

A source breaks off at the first position that offends: where a character stands that occurs in no
source, or a point that no digit follows (`TokenStream.broken_iff_isLeast`). A source without such a
position is made up of its tokens and of spacing between them, each number as long as a number can
be there (`LiesIn`, `TokenStream.liesIn_of_scan`).

The tokens of a source that breaks off are those of the text in front of the number or the character
at which it does (`TokenStream.exists_of_broken`), and there is one such text only
(`LiesIn.eq_of_breaksOff`). The main statement puts these together (`TokenStream.decomposition`).
-/

namespace Calculator

/-! ### Positions that offend -/

/-- The operators and the parentheses. -/
def signs : List Char := ['+', '-', '*', '/', '%', '(', ')']

/-- Whether a character may occur in a source: a digit, a point, a sign or spacing. -/
def isSourceChar (c : Char) : Bool := isNumeric c || c ∈ signs || isSpacing c

/-- Whether a position of a source offends: a character stands there that occurs in no source, or a
point, and what stands behind it is no digit. -/
def OffendsAt (cs : List Char) (position : Nat) : Prop :=
  ∃ c, cs[position]? = some c ∧
    (isSourceChar c = false ∨ c = '.' ∧ ∀ d ∈ cs[position + 1]?, d.isDigit = false)

/-- The characters that are a token of their own are the signs. -/
lemma TokenKind.ofChar?_eq_none_iff (c : Char) : ofChar? c = none ↔ c ∉ signs := by
  unfold ofChar?
  by_cases hopening : c = '('
  · simp [hopening, signs]
  by_cases hclosing : c = ')'
  · simp [hclosing, signs]
  rw [if_neg hopening, if_neg hclosing, Option.map_eq_none_iff, Operator.ofSymbol?,
    List.find?_eq_none]
  simp [Operator.all, Operator.symbol, signs, hopening, hclosing, eq_comm]

/-- What occurs in no source is no spacing and begins no token. -/
lemma isSourceChar_eq_false_iff (c : Char) :
    isSourceChar c = false ↔
      isSpacing c = false ∧ isNumeric c = false ∧ TokenKind.ofChar? c = none := by
  rw [TokenKind.ofChar?_eq_none_iff]
  simp only [isSourceChar, Bool.or_eq_false_iff, decide_eq_false_iff_not]
  tauto

/-- A position offends just when the character there does. -/
lemma offendsAt_length_iff (before : List Char) (c : Char) (after : List Char) :
    OffendsAt (before ++ c :: after) before.length ↔ Offends c after := by
  have hat : (before ++ c :: after)[before.length]? = some c := by simp
  have hnext : (before ++ c :: after)[before.length + 1]? = after.head? := by
    rw [List.getElem?_append_right (Nat.le_succ _), List.head?_eq_getElem?]
    simp
  unfold OffendsAt Offends
  rw [hat, hnext, ← isSourceChar_eq_false_iff]
  constructor
  · rintro ⟨d, hd, hforeign | hpoint⟩
    · cases hd
      exact Or.inr hforeign
    · cases hd
      exact Or.inl hpoint
  · rintro (hpoint | hforeign)
    · exact ⟨c, rfl, Or.inr hpoint⟩
    · exact ⟨c, rfl, Or.inl hforeign⟩

/-- Behind a text the positions of what follows are shifted. -/
lemma offendsAt_append_iff (xs ys : List Char) (position : Nat) :
    OffendsAt (xs ++ ys) (xs.length + position) ↔ OffendsAt ys position := by
  unfold OffendsAt
  rw [List.getElem?_append_right (Nat.le_add_right _ _), Nat.add_assoc,
    List.getElem?_append_right (Nat.le_add_right _ _), Nat.add_sub_cancel_left,
    Nat.add_sub_cancel_left]

/-- Behind a character the positions of what follows are shifted by one. -/
lemma offendsAt_cons_succ_iff (c : Char) (cs : List Char) (position : Nat) :
    OffendsAt (c :: cs) (position + 1) ↔ OffendsAt cs position := by
  rw [Nat.add_comm]
  exact offendsAt_append_iff [c] cs position

/-- A character of a source other than a point does not offend. -/
lemma not_offendsAt {cs : List Char} {position : Nat} {c : Char} (hat : cs[position]? = some c)
    (hc : isSourceChar c = true) (hpoint : c ≠ '.') : ¬OffendsAt cs position := by
  rintro ⟨d, hd, hforeign | ⟨rfl, -⟩⟩
  · cases hat.symm.trans hd
    cases hc.symm.trans hforeign
  · cases hat.symm.trans hd
    exact hpoint rfl

/-- A digit does not offend. -/
lemma not_offendsAt_of_digits {ds : List Char} (hdigits : ∀ d ∈ ds, d.isDigit = true)
    (rest : List Char) {position : Nat} (h : position < ds.length) :
    ¬OffendsAt (ds ++ rest) position := by
  have hdigit : ds[position].isDigit = true := hdigits _ (List.getElem_mem h)
  have hat : (ds ++ rest)[position]? = some ds[position] := by
    rw [List.getElem?_append_left h, List.getElem?_eq_getElem h]
  refine not_offendsAt hat ?_ ?_
  · simp [isSourceChar, isNumeric, hdigit]
  · intro hpoint
    rw [hpoint] at hdigit
    cases hdigit

/-- No position of a numeral offends. -/
lemma Numeral.IsProper.not_offendsAt {n : Numeral} (h : n.IsProper) (rest : List Char)
    {position : Nat} (hposition : position < n.text.length) :
    ¬OffendsAt (n.text ++ rest) position := by
  obtain ⟨whole, fraction⟩ := n
  by_cases hfraction : fraction = []
  · have htext : text ⟨whole, fraction⟩ = whole := if_pos hfraction
    rw [htext] at hposition ⊢
    exact not_offendsAt_of_digits h.whole rest hposition
  · have htext : text ⟨whole, fraction⟩ = whole ++ '.' :: fraction := if_neg hfraction
    rw [htext] at hposition ⊢
    rw [List.append_assoc, List.cons_append]
    rcases Nat.lt_trichotomy position whole.length with hlt | rfl | hgt
    · exact not_offendsAt_of_digits h.whole _ hlt
    · rw [offendsAt_length_iff]
      rintro (⟨-, hdigit⟩ | ⟨-, hnumeric, -⟩)
      · obtain ⟨d, ds, rfl⟩ := List.exists_cons_of_ne_nil hfraction
        cases (h.fraction d List.mem_cons_self).symm.trans (hdigit d rfl)
      · cases hnumeric
    · obtain ⟨k, rfl⟩ := Nat.exists_eq_add_of_lt hgt
      rw [Nat.add_assoc, offendsAt_append_iff, offendsAt_cons_succ_iff]
      have hlt : k < fraction.length := by
        rw [List.length_append, List.length_cons] at hposition
        omega
      exact not_offendsAt_of_digits h.fraction rest hlt

/-- Where the tokens of a source end: behind the last character, or where it breaks off. -/
def Ending.place : Ending → Nat
  | .complete length => length
  | .broken position => position

/-! ### Numbers as long as possible -/

/-- Digits, at least one. -/
def IsDigits (cs : List Char) : Prop := cs ≠ [] ∧ ∀ c ∈ cs, c.isDigit = true

/-- The text of a number: digits, digits around a point, or a point and digits. -/
inductive IsNumberText : List Char → Prop where
  | whole {ds : List Char} (digits : IsDigits ds) : IsNumberText ds
  | decimal {ds fs : List Char} (digits : IsDigits ds) (fraction : IsDigits fs) :
      IsNumberText (ds ++ '.' :: fs)
  | fraction {fs : List Char} (fraction : IsDigits fs) : IsNumberText ('.' :: fs)

/-- The characters of digits are numeric, and none of them is a point. -/
lemma IsDigits.chars {cs : List Char} (h : IsDigits cs) :
    (∀ c ∈ cs, isNumeric c = true) ∧ cs.count '.' = 0 := by
  constructor
  · intro c hc
    simp [isNumeric, h.2 c hc]
  · refine List.count_eq_zero.mpr fun hpoint => ?_
    cases h.2 '.' hpoint

/-- The characters of a number are numeric, and at most one of them is a point. -/
lemma IsNumberText.chars {cs : List Char} (h : IsNumberText cs) :
    (∀ c ∈ cs, isNumeric c = true) ∧ cs.count '.' ≤ 1 := by
  have hpoint : isNumeric '.' = true := rfl
  cases h with
  | whole digits =>
    obtain ⟨hnumeric, hcount⟩ := digits.chars
    exact ⟨hnumeric, hcount.le.trans (Nat.zero_le _)⟩
  | decimal digits fraction =>
    obtain ⟨hnumeric, hcount⟩ := digits.chars
    obtain ⟨hnumeric', hcount'⟩ := fraction.chars
    constructor
    · exact List.forall_mem_append.mpr ⟨hnumeric, List.forall_mem_cons.mpr ⟨hpoint, hnumeric'⟩⟩
    · simp [List.count_append, hcount, hcount']
  | fraction fraction =>
    obtain ⟨hnumeric, hcount⟩ := fraction.chars
    constructor
    · exact List.forall_mem_cons.mpr ⟨hpoint, hnumeric⟩
    · simp [hcount]

namespace Numeral

/-- The text of a proper numeral is that of a number. -/
lemma IsProper.isNumberText {n : Numeral} (h : n.IsProper) : IsNumberText n.text := by
  obtain ⟨whole, fraction⟩ := n
  by_cases hfraction : fraction = []
  · have hwhole : whole ≠ [] := h.digit.resolve_right fun hne => hne hfraction
    simp only [text, hfraction, if_true]
    exact .whole ⟨hwhole, h.whole⟩
  · simp only [text, hfraction, if_false]
    by_cases hwhole : whole = []
    · rw [hwhole]
      exact .fraction ⟨hfraction, h.fraction⟩
    · exact .decimal ⟨hwhole, h.whole⟩ ⟨hfraction, h.fraction⟩

/-- The number at the beginning of a text is proper. -/
lemma isProper_of_first {c : Char} {cs : List Char} {n : Numeral} (hc : isNumeric c = true)
    (h : first (c :: cs) = .ok n) : n.IsProper := by
  have hne := text_ne_nil_of_first (by simpa [isNumeric] using hc) h
  have hdigit : n.whole ≠ [] ∨ n.fraction ≠ [] := by
    by_contra hnone
    rw [not_or, not_not, not_not] at hnone
    exact hne (by rw [text, if_pos hnone.2, hnone.1])
  rcases point_or_not (c :: cs) with ⟨after, hpoint⟩ | hpoint
  · rw [first_of_point hpoint] at h
    split at h
    · cases h
    · cases h
      exact ⟨fun _ => List.mem_takeWhile_imp, fun _ => List.mem_takeWhile_imp, hdigit⟩
  · rw [first_of_no_point hpoint] at h
    cases h
    exact ⟨fun _ => List.mem_takeWhile_imp, List.forall_mem_nil _, hdigit⟩

/-- The number at the beginning of a text ends before what follows it. -/
lemma endsBefore_of_first {n : Numeral} {rest : List Char} (h : first (n.text ++ rest) = .ok n) :
    n.EndsBefore rest := by
  obtain ⟨rest', hsplit, hends⟩ := exists_of_first h
  rwa [List.append_cancel_left hsplit]

/-- What a numeral ends before can end earlier. -/
lemma EndsBefore.of_append {n : Numeral} {xs ys : List Char} (h : n.EndsBefore (xs ++ ys)) :
    n.EndsBefore xs := by
  intro d hd
  refine h d ?_
  rw [List.head?_append, hd]
  rfl

/-- No number at the beginning of a text is longer than a numeral that ends before what follows it.
-/
lemma EndsBefore.length_le {n : Numeral} {rest other : List Char} (h : n.EndsBefore rest)
    (number : IsNumberText other) (begins : other <+: n.text ++ rest) :
    other.length ≤ n.text.length := by
  by_contra hlonger
  rw [Nat.not_le] at hlonger
  obtain ⟨more, rfl⟩ := List.prefix_of_prefix_length_le (List.prefix_append _ _) begins hlonger.le
  obtain ⟨hnumeric, hcount⟩ := number.chars
  cases more with
  | nil => simp at hlonger
  | cons d ds =>
    obtain ⟨tail, hrest⟩ := (List.prefix_append_right_inj _).mp begins
    have hd : d ∈ rest.head? := by rw [← hrest]; rfl
    obtain ⟨hdigit, hpoint⟩ := h d hd
    -- The number goes on with a second point.
    obtain rfl : d = '.' := by
      have hd' : isNumeric d = true := hnumeric d (by simp)
      simpa [isNumeric, hdigit] using hd'
    have hfraction : n.fraction ≠ [] := fun hnone => hpoint hnone rfl
    have hfirst : 0 < n.text.count '.' := by
      rw [text, if_neg hfraction]
      exact List.count_pos_iff.mpr (by simp)
    rw [List.count_append, List.count_cons_self] at hcount
    omega

end Numeral

/-! ### Tokens and spacing -/

/-- Whether a token is read from its text, with what follows in the source: a number that could not
be longer, or the one character of an operator or a parenthesis. -/
inductive IsRead : TokenKind → List Char → List Char → Prop where
  | number {n : Numeral} {rest : List Char} (form : IsNumberText n.text)
      (longest : ∀ other, IsNumberText other → other <+: n.text ++ rest →
        other.length ≤ n.text.length) :
      IsRead (.number n) n.text rest
  | sign {kind : TokenKind} {c : Char} {rest : List Char} (own : TokenKind.ofChar? c = some kind) :
      IsRead kind [c] rest

/-- Whether a text that begins at a position of the source is made up of the texts of tokens, which
stand where they are said to, and of gaps between them that are spacing. -/
inductive LiesIn : Nat → List Token → List Char → Prop where
  | gap {position : Nat} {gap : List Char} (spacing : ∀ c ∈ gap, isSpacing c = true) :
      LiesIn position [] gap
  | token {position : Nat} {gap text rest : List Char} {kind : TokenKind} {tokens : List Token}
      (spacing : ∀ c ∈ gap, isSpacing c = true) (read : IsRead kind text rest)
      (lies : LiesIn (position + gap.length + text.length) tokens rest) :
      LiesIn position (⟨kind, position + gap.length⟩ :: tokens) (gap ++ text ++ rest)

/-- A token that is read has its own text, which is not empty and has no spacing in it. -/
lemma IsRead.text {kind : TokenKind} {text rest : List Char} (h : IsRead kind text rest) :
    kind.text = text ∧ text ≠ [] ∧ ∀ c ∈ text, isSpacing c = false := by
  cases h with
  | number form longest =>
    refine ⟨rfl, ?_, fun c hc => isSpacing_eq_false (Or.inl (form.chars.1 c hc))⟩
    intro hnil
    rw [hnil] at form
    generalize hcs : ([] : List Char) = cs at form
    cases form with
    | whole digits => exact digits.1 hcs.symm
    | decimal digits fraction => simp at hcs
    | fraction fraction => cases hcs
  | sign own =>
    refine ⟨TokenKind.text_of_ofChar? own, List.cons_ne_nil _ _, fun c hc => ?_⟩
    rw [List.mem_singleton.mp hc]
    exact isSpacing_eq_false (Or.inr (by rw [own]; rfl))

/-- Tokens lie at or behind the position, one behind the other. -/
lemma LiesIn.pairwise {position : Nat} {tokens : List Token} {cs : List Char}
    (h : LiesIn position tokens cs) :
    (∀ token ∈ tokens, position ≤ token.position) ∧
      tokens.Pairwise fun first second => first.position < second.position := by
  induction h with
  | gap spacing => exact ⟨List.forall_mem_nil _, .nil⟩
  | @token position gap text rest kind tokens spacing read lies ih =>
    obtain ⟨hbehind, hpairwise⟩ := ih
    have hpos := List.length_pos_iff.mpr read.text.2.1
    constructor
    · refine List.forall_mem_cons.mpr ⟨Nat.le_add_right _ _, fun token htoken => ?_⟩
      have := hbehind token htoken
      omega
    · refine .cons (fun token htoken => ?_) hpairwise
      have := hbehind token htoken
      simp only
      omega

/-- The texts of the tokens are what is left without spacing. -/
lemma LiesIn.filter_eq {position : Nat} {tokens : List Token} {cs : List Char}
    (h : LiesIn position tokens cs) :
    cs.filter (fun c => !isSpacing c) = tokens.flatMap fun token => token.kind.text := by
  have hgap : ∀ {gap : List Char}, (∀ c ∈ gap, isSpacing c = true) →
      gap.filter (fun c => !isSpacing c) = [] := by
    intro gap spacing
    refine List.filter_eq_nil_iff.mpr fun c hc => ?_
    rw [spacing c hc]
    decide
  induction h with
  | gap spacing => exact hgap spacing
  | @token position gap text rest kind tokens spacing read lies ih =>
    obtain ⟨htext, -, hchars⟩ := read.text
    have hall : text.filter (fun c => !isSpacing c) = text := by
      refine List.filter_eq_self.mpr fun c hc => ?_
      rw [hchars c hc]
      rfl
    rw [List.filter_append, List.filter_append, hgap spacing, hall, ih, List.nil_append,
      List.flatMap_cons, htext]

/-- Spacing in front belongs to the first gap. -/
lemma LiesIn.spacing {position : Nat} {tokens : List Token} {c : Char} {cs : List Char}
    (hc : isSpacing c = true) (h : LiesIn (position + 1) tokens cs) :
    LiesIn position tokens (c :: cs) := by
  generalize hposition : position + 1 = next at h
  cases h with
  | gap spacing => exact .gap (List.forall_mem_cons.mpr ⟨hc, spacing⟩)
  | @token _ gap text rest kind tokens spacing read lies =>
    have hlength : next + gap.length = position + (c :: gap).length := by
      rw [← hposition, List.length_cons]
      omega
    rw [hlength] at lies ⊢
    exact .token (List.forall_mem_cons.mpr ⟨hc, spacing⟩) read lies

/-! ### Where a source breaks off -/

/-- Whether a text begins with what a source breaks off at, and how far behind: digits and a point
that no digit follows, or a character that occurs in no source. -/
inductive BreaksOff : List Char → Nat → Prop where
  | number {digits after : List Char} (whole : ∀ d ∈ digits, d.isDigit = true)
      (point : ∀ d ∈ after.head?, d.isDigit = false) :
      BreaksOff (digits ++ '.' :: after) digits.length
  | character {c : Char} {after : List Char} (foreign : isSourceChar c = false) :
      BreaksOff (c :: after) 0

/-- A text at which a source breaks off does not begin with spacing. -/
lemma BreaksOff.exists_cons {cs : List Char} {offset : Nat} (h : BreaksOff cs offset) :
    ∃ c rest, cs = c :: rest ∧ isSpacing c = false := by
  cases h with
  | @number digits after whole point =>
    cases digits with
    | nil => exact ⟨'.', after, rfl, rfl⟩
    | cons d digits =>
      have hdigit : d.isDigit = true := whole d List.mem_cons_self
      exact ⟨d, _, rfl, isSpacing_eq_false (Or.inl (by simp [isNumeric, hdigit]))⟩
  | @character c after foreign =>
    exact ⟨c, after, rfl, ((isSourceChar_eq_false_iff c).mp foreign).1⟩

/-- Two beginnings of a source that are made up of the same tokens, and behind which it breaks off,
are the same. -/
lemma LiesIn.eq_of_breaksOff {position offset offset' : Nat} {tokens : List Token}
    {before before' rest rest' : List Char} (h : LiesIn position tokens before)
    (h' : LiesIn position tokens before') (split : before ++ rest = before' ++ rest')
    (breaks : BreaksOff rest offset) (breaks' : BreaksOff rest' offset') : before = before' := by
  -- The longer one goes on with a character that is no spacing and belongs to no token.
  have hle : ∀ {xs ys zs zs' : List Char} {k : Nat}, LiesIn position tokens xs →
      LiesIn position tokens ys → xs ++ zs = ys ++ zs' → BreaksOff zs k →
        ys.length ≤ xs.length := by
    intro xs ys zs zs' k hxs hys heq hbreaks
    by_contra hlonger
    rw [Nat.not_le] at hlonger
    obtain ⟨c, tail, rfl, hc⟩ := hbreaks.exists_cons
    obtain ⟨more, rfl⟩ := List.prefix_of_prefix_length_le
      (heq ▸ List.prefix_append xs (c :: tail)) (List.prefix_append ys zs') hlonger.le
    have hfilter := hxs.filter_eq.trans hys.filter_eq.symm
    rw [List.filter_append, List.self_eq_append_right, List.filter_eq_nil_iff] at hfilter
    cases more with
    | nil => simp at hlonger
    | cons d more =>
      rw [List.append_assoc, List.append_cancel_left_eq, List.cons_append, List.cons.injEq] at heq
      obtain ⟨rfl, -⟩ := heq
      exact hfilter c List.mem_cons_self (by rw [hc]; rfl)
  exact List.append_inj_left split (Nat.le_antisymm (hle h' h split.symm breaks')
    (hle h h' split breaks))

namespace TokenStream

/-- In front of the place where the tokens end no position offends. -/
lemma not_offendsAt_of_scan {position offending : Nat} {cs : List Char}
    (h : position + offending < (scan position cs).ending.place) : ¬OffendsAt cs offending := by
  induction cs using scan_induction generalizing position offending with
  | nil =>
    rintro ⟨c, hc, -⟩
    cases hc
  | spacing c rest hc ih =>
    rw [scan_spacing position hc] at h
    cases offending with
    | zero =>
      refine not_offendsAt (c := c) rfl (by simp [isSourceChar, hc]) ?_
      rintro rfl
      cases hc
    | succ offending =>
      rw [offendsAt_cons_succ_iff]
      have hrest : position + 1 + offending < (scan (position + 1) rest).ending.place := by omega
      exact ih hrest
  | number c rest after n hc hfirst hsplit ih =>
    rw [scan_number position hc hfirst hsplit] at h
    have hproper := Numeral.isProper_of_first hc hfirst
    rw [hsplit]
    rcases Nat.lt_or_ge offending n.text.length with hlt | hge
    · exact hproper.not_offendsAt after hlt
    · obtain ⟨k, rfl⟩ := Nat.exists_eq_add_of_le hge
      rw [offendsAt_append_iff]
      rw [← Nat.add_assoc] at h
      exact ih h
  | brokenNumber c rest offset hc hfirst =>
    rw [scan_broken_number position hc hfirst] at h
    obtain ⟨before, after, hsplit, rfl, hdigits, -⟩ := Numeral.exists_of_first_error hfirst
    rw [hsplit]
    exact not_offendsAt_of_digits hdigits _ (Nat.lt_of_add_lt_add_left h)
  | sign c rest kind hnumeric hkind ih =>
    rw [scan_sign position hnumeric hkind] at h
    cases offending with
    | zero =>
      refine not_offendsAt (c := c) rfl ?_ ?_
      · by_contra hforeign
        rw [Bool.not_eq_true, isSourceChar_eq_false_iff] at hforeign
        cases hkind.symm.trans hforeign.2.2
      · rintro rfl
        cases hnumeric
    | succ offending =>
      rw [offendsAt_cons_succ_iff]
      rw [Nat.add_comm offending, ← Nat.add_assoc] at h
      exact ih h
  | stranger c rest hspacing hnumeric hkind =>
    rw [scan_stranger position hspacing hnumeric hkind] at h
    exact absurd h (Nat.not_lt.mpr (Nat.le_add_right _ _))

/-- No position of a source offends whose tokens go on to its end. -/
lemma not_offendsAt_of_complete {cs : List Char} {length : Nat}
    (h : (ofChars cs).ending = .complete length) (position : Nat) : ¬OffendsAt cs position := by
  intro hoffends
  obtain ⟨c, hc, -⟩ := id hoffends
  have hlt : position < cs.length := (List.getElem?_eq_some_iff.mp hc).1
  have hlength : length = 0 + cs.length := length_of_scan h
  rw [hlength] at h
  have hplace : 0 + position < (scan 0 cs).ending.place :=
    lt_of_lt_of_eq (Nat.add_lt_add_left hlt 0) (congrArg Ending.place h).symm
  exact not_offendsAt_of_scan hplace hoffends

/-- A source breaks off at the first position that offends. -/
lemma broken_iff_isLeast (cs : List Char) (position : Nat) :
    (ofChars cs).ending = .broken position ↔ IsLeast {p | OffendsAt cs p} position := by
  have hleast : ∀ {p}, (ofChars cs).ending = .broken p → IsLeast {p | OffendsAt cs p} p := by
    intro p hbroken
    constructor
    · obtain ⟨before, c, after, rfl, hp, hoffends⟩ := offends_of_scan hbroken
      rw [Nat.zero_add] at hp
      rw [hp]
      exact (offendsAt_length_iff before c after).mpr hoffends
    · intro q hq
      by_contra hlt
      rw [Nat.not_le] at hlt
      have hplace : 0 + q < (scan 0 cs).ending.place := by
        rw [Nat.zero_add]
        exact lt_of_lt_of_eq hlt (congrArg Ending.place hbroken).symm
      exact not_offendsAt_of_scan hplace hq
  refine ⟨hleast, fun h => ?_⟩
  cases hending : (ofChars cs).ending with
  | broken p => rw [(hleast hending).unique h]
  | complete length => exact absurd h.1 (not_offendsAt_of_complete hending position)

/-- A text without a position that offends is made up of its tokens and spacing. -/
lemma liesIn_of_scan {position length : Nat} {cs : List Char}
    (h : (scan position cs).ending = .complete length) :
    LiesIn position (scan position cs).tokens cs := by
  induction cs using scan_induction generalizing position with
  | nil =>
    rw [scan]
    exact .gap (List.forall_mem_nil _)
  | spacing c rest hc ih =>
    rw [scan_spacing position hc] at h ⊢
    exact (ih h).spacing hc
  | number c rest after n hc hfirst hsplit ih =>
    rw [scan_number position hc hfirst hsplit] at h ⊢
    have hproper := Numeral.isProper_of_first hc hfirst
    have hends : n.EndsBefore after := Numeral.endsBefore_of_first (hsplit ▸ hfirst)
    rw [hsplit]
    have hread : IsRead (.number n) n.text after :=
      .number hproper.isNumberText fun _ => hends.length_le
    exact @LiesIn.token _ [] _ _ _ _ (List.forall_mem_nil _) hread (ih h)
  | brokenNumber c rest offset hc hfirst =>
    rw [scan_broken_number position hc hfirst] at h
    cases h
  | sign c rest kind hnumeric hkind ih =>
    rw [scan_sign position hnumeric hkind] at h ⊢
    exact @LiesIn.token _ [] [c] _ _ _ (List.forall_mem_nil _) (.sign hkind) (ih h)
  | stranger c rest hspacing hnumeric hkind =>
    rw [scan_stranger position hspacing hnumeric hkind] at h
    cases h

/-- A text that breaks off does so behind a text that has the same tokens. -/
lemma exists_of_broken {position offender : Nat} {cs : List Char}
    (h : (scan position cs).ending = .broken offender) :
    ∃ before rest offset, cs = before ++ rest ∧ BreaksOff rest offset ∧
      offender = position + before.length + offset ∧
      scan position before = ⟨(scan position cs).tokens, .complete (position + before.length)⟩ := by
  induction cs using scan_induction generalizing position with
  | nil =>
    rw [scan] at h
    cases h
  | spacing c rest hc ih =>
    rw [scan_spacing position hc] at h ⊢
    obtain ⟨before, rest, offset, rfl, hbreaks, hoffender, hscan⟩ := ih h
    refine ⟨c :: before, rest, offset, rfl, hbreaks, ?_, ?_⟩
    · rw [hoffender, List.length_cons]
      omega
    · rw [scan_spacing position hc, hscan, List.length_cons, Nat.add_assoc, Nat.add_comm 1]
  | number c rest after n hc hfirst hsplit ih =>
    rw [scan_number position hc hfirst hsplit] at h ⊢
    obtain ⟨before, rest, offset, rfl, hbreaks, hoffender, hscan⟩ := ih h
    have hends : n.EndsBefore (before ++ rest) := Numeral.endsBefore_of_first (hsplit ▸ hfirst)
    refine ⟨n.text ++ before, rest, offset, ?_, hbreaks, ?_, ?_⟩
    · rw [hsplit, List.append_assoc]
    · rw [hoffender, List.length_append]
      omega
    · rw [scan_text_append (Numeral.isProper_of_first hc hfirst) hends.of_append, hscan,
        List.length_append, Nat.add_assoc]
      rfl
  | brokenNumber c rest offset hc hfirst =>
    rw [scan_broken_number position hc hfirst] at h ⊢
    cases h
    obtain ⟨digits, after, hsplit, rfl, hdigits, hpoint⟩ := Numeral.exists_of_first_error hfirst
    refine ⟨[], c :: rest, digits.length, rfl, ?_, rfl, by rw [scan]; rfl⟩
    rw [hsplit]
    exact .number hdigits hpoint
  | sign c rest kind hnumeric hkind ih =>
    rw [scan_sign position hnumeric hkind] at h ⊢
    obtain ⟨before, rest, offset, rfl, hbreaks, hoffender, hscan⟩ := ih h
    refine ⟨c :: before, rest, offset, rfl, hbreaks, ?_, ?_⟩
    · rw [hoffender, List.length_cons]
      omega
    · rw [scan_sign position hnumeric hkind, hscan, List.length_cons, Nat.add_assoc,
        Nat.add_comm 1]
      rfl
  | stranger c rest hspacing hnumeric hkind =>
    rw [scan_stranger position hspacing hnumeric hkind] at h ⊢
    cases h
    have hforeign := (isSourceChar_eq_false_iff c).mpr ⟨hspacing, hnumeric, hkind⟩
    exact ⟨[], c :: rest, 0, rfl, .character hforeign, rfl, by rw [scan]; rfl⟩

/-- The tokens of a source, exactly. The error of a source is an invalid character at the first
position that offends, and there is none just when no position offends. Then the source is made up
of its tokens, one behind the other, and of spacing, and the stream ends behind the last character.
Otherwise the tokens are those of the one text that ends where the number or the character begins at
which the source breaks off. -/
theorem decomposition (cs : List Char) :
    (∀ e, (ofChars cs).ending.error? = some e ↔
      ∃ position, IsLeast {p | OffendsAt cs p} position ∧
        e = .placed .lexing .invalidCharacter position) ∧
    ((ofChars cs).ending.error? = none ↔ ∀ position, ¬OffendsAt cs position) ∧
    ((ofChars cs).ending.error? = none →
      (ofChars cs).ending = .complete cs.length ∧
      (ofChars cs).tokens.Pairwise (fun first second => first.position < second.position) ∧
      LiesIn 0 (ofChars cs).tokens cs) ∧
    ∀ position, IsLeast {p | OffendsAt cs p} position →
      ∃! before, ∃ rest offset, cs = before ++ rest ∧ BreaksOff rest offset ∧
        position = before.length + offset ∧
        ofChars before = ⟨(ofChars cs).tokens, .complete before.length⟩ := by
  have hbroken := broken_iff_isLeast cs
  have hlies : ∀ {cs length}, (ofChars cs).ending = .complete length →
      LiesIn 0 (ofChars cs).tokens cs := liesIn_of_scan
  refine ⟨fun e => ?_, ?_, fun hnone => ?_, fun position hleast => ?_⟩
  · simp only [← hbroken]
    cases (ofChars cs).ending with
    | complete length => simp [Ending.error?]
    | broken position => simp [Ending.error?, eq_comm]
  · cases hending : (ofChars cs).ending with
    | complete length => exact iff_of_true rfl (not_offendsAt_of_complete hending)
    | broken position =>
      exact iff_of_false nofun fun hnone => hnone position ((hbroken position).mp hending).1
  · cases hending : (ofChars cs).ending with
    | broken position => rw [hending] at hnone; cases hnone
    | complete length =>
      have hlength : length = 0 + cs.length := length_of_scan hending
      rw [Nat.zero_add] at hlength
      exact ⟨congrArg Ending.complete hlength, (hlies hending).pairwise.2, hlies hending⟩
  · obtain ⟨before, rest, offset, hsplit, hbreaks, hposition, hscan⟩ :=
      exists_of_broken ((hbroken position).mpr hleast)
    rw [Nat.zero_add] at hposition hscan
    have hbefore : ofChars before = ⟨(ofChars cs).tokens, .complete before.length⟩ := hscan
    refine ⟨before, ⟨rest, offset, hsplit, hbreaks, hposition, hbefore⟩, ?_⟩
    rintro before' ⟨rest', offset', hsplit', hbreaks', -, hbefore'⟩
    have htokens := hlies (congrArg TokenStream.ending hbefore)
    have htokens' := hlies (congrArg TokenStream.ending hbefore')
    rw [hbefore] at htokens
    rw [hbefore'] at htokens'
    exact htokens'.eq_of_breaksOff htokens (hsplit'.symm.trans hsplit) hbreaks' hbreaks

/-- A number takes one point only, and a second one begins the next number. -/
example : ofChars "12.5.5".toList =
    ⟨[⟨.number ⟨['1', '2'], ['5']⟩, 0⟩, ⟨.number ⟨[], ['5']⟩, 4⟩], .complete 6⟩ := by
  decide +kernel

end TokenStream

end Calculator
