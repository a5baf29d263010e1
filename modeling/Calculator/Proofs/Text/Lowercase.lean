import Calculator.Text.Lowercase
import Mathlib.Data.List.Forall2
import Mathlib.Tactic.Lemma

/-!
# Small forms of parts of a text

The small form of a text is put together from the small forms of its parts, but for one letter: a
capital sigma is written in another way at the end of a word, and where a word begins and ends may
be decided outside the part. `lowerWithin` is the small form of a part of a text, given whether a
letter with case comes last before it and whether one comes next behind it
(`lowerFrom_append`).

A part is steady if neither a letter in front of it nor a letter behind it changes its small form.
Then its small form is the same in all places (`Steady.lower_infix`), and no other part has this
property (`steady_of_lower_infix`). A part without a capital sigma is steady.
-/

namespace Calculator.Text

/-! ### Parts of a text -/

/-- The small form of a character. `final` tells whether it would be a sigma at the end of a
word. -/
def smallForm (final : Bool) : CodePoint → List CodePoint
  | .half unit => [.half unit]
  | .char c =>
    if c = 'Σ' then [.char (if final then 'ς' else 'σ')] else (lowerChar c).map .char

/-- Whether a letter with case came last, also counting one more character. -/
def wordStep (inWord : Bool) (p : CodePoint) : Bool :=
  if p.isOf isCaseIgnorable then inWord else p.isOf isCased

/-- Whether a letter with case came last at the end of a text. -/
def wordAfter (inWord : Bool) (ps : List CodePoint) : Bool := ps.foldl wordStep inWord

/-- Whether a letter with case comes next; `after` tells whether one comes next behind the text. -/
def casedNext (after : Bool) : List CodePoint → Bool
  | [] => after
  | p :: rest => if p.isOf isCaseIgnorable then casedNext after rest else p.isOf isCased

/-- The small form of a part of a text. `before` tells whether a letter with case came last before
it, and `after` whether one comes next behind it. -/
def lowerWithin (before after : Bool) : List CodePoint → List CodePoint
  | [] => []
  | p :: rest =>
    smallForm (before && !casedNext after rest) p ++ lowerWithin (wordStep before p) after rest

/-- What follows a part is looked for in the part first. -/
lemma casedFollows_append (ps qs : List CodePoint) :
    casedFollows (ps ++ qs) = casedNext (casedFollows qs) ps := by
  induction ps with
  | nil => rfl
  | cons p rest ih =>
    rw [casedNext, ← ih]
    cases hignorable : p.isOf isCaseIgnorable <;> simp [casedFollows, hignorable]

/-- The small form of a text begins with that of its first character. -/
lemma lowerFrom_cons (inWord : Bool) (p : CodePoint) (rest : List CodePoint) :
    lowerFrom inWord (p :: rest) =
      smallForm (inWord && !casedFollows rest) p ++ lowerFrom (wordStep inWord p) rest := by
  cases p <;> rfl

/-- The small form of a text in two parts: that of the first part, which depends on what the second
part begins with, and that of the second one. -/
theorem lowerFrom_append (inWord : Bool) (ps qs : List CodePoint) :
    lowerFrom inWord (ps ++ qs) =
      lowerWithin inWord (casedFollows qs) ps ++ lowerFrom (wordAfter inWord ps) qs := by
  induction ps generalizing inWord with
  | nil => rfl
  | cons p rest ih =>
    rw [List.cons_append, lowerFrom_cons, casedFollows_append, ih, lowerWithin, List.append_assoc]
    rfl

/-- No letter comes next behind the end of a text. -/
lemma lowerFrom_eq (inWord : Bool) (ps : List CodePoint) :
    lowerFrom inWord ps = lowerWithin inWord false ps := by
  have happend := lowerFrom_append inWord ps []
  rw [List.append_nil] at happend
  exact happend.trans (List.append_nil _)

/-! ### Texts that differ in one character -/

/-- One text is the other one, but the first of two characters may have become the second. -/
def Becomes (x y : CodePoint) : List CodePoint → List CodePoint → Prop :=
  List.Forall₂ fun a b => a = b ∨ a = x ∧ b = y

/-- No character need have become another. -/
lemma becomes_refl (x y : CodePoint) (ps : List CodePoint) : Becomes x y ps ps :=
  List.forall₂_same.mpr fun _ _ => Or.inl rfl

/-- Where a character has become another one, it has become rarer. -/
lemma Becomes.count_le {x y : CodePoint} (hxy : x ≠ y) {ps qs : List CodePoint}
    (h : Becomes x y ps qs) : qs.count x ≤ ps.count x := by
  induction h with
  | nil => exact Nat.le_refl _
  | cons hhead _ ih =>
    rcases hhead with rfl | ⟨rfl, rfl⟩
    · simp only [List.count_cons]
      omega
    · rw [List.count_cons_self, List.count_cons_of_ne hxy.symm]
      omega

/-- If a character has not become rarer, then nothing has changed. -/
lemma Becomes.eq_of_count_le {x y : CodePoint} (hxy : x ≠ y) {ps qs : List CodePoint}
    (h : Becomes x y ps qs) (hcount : ps.count x ≤ qs.count x) : ps = qs := by
  induction h with
  | nil => rfl
  | cons hhead htail ih =>
    rcases hhead with rfl | ⟨rfl, rfl⟩
    · simp only [List.count_cons] at hcount
      rw [ih (by omega)]
    · have hle := Becomes.count_le hxy htail
      rw [List.count_cons_self, List.count_cons_of_ne hxy.symm] at hcount
      omega

/-! ### Where a sigma decides -/

/-- The small sigma within a word. -/
def sigma : CodePoint := .char 'σ'

/-- The small sigma at the end of a word. -/
def finalSigma : CodePoint := .char 'ς'

/-- The two are different. -/
lemma sigma_ne_finalSigma : sigma ≠ finalSigma := by decide

/-- Only the small form of a capital sigma depends on where it stands. -/
lemma smallForm_of_ne {p : CodePoint} (h : p ≠ .char 'Σ') (final final' : Bool) :
    smallForm final p = smallForm final' p := by
  cases p with
  | half unit => rfl
  | char c =>
    have hc : c ≠ 'Σ' := fun heq => h (congrArg _ heq)
    rw [smallForm, smallForm, if_neg hc, if_neg hc]

/-- A text without a capital sigma has the same small form everywhere. -/
lemma lowerWithin_of_not_mem {ps : List CodePoint} (h : .char 'Σ' ∉ ps)
    (before after before' after' : Bool) :
    lowerWithin before after ps = lowerWithin before' after' ps := by
  induction ps generalizing before before' with
  | nil => rfl
  | cons p rest ih =>
    have hp : p ≠ .char 'Σ' := fun heq => h (heq ▸ List.mem_cons_self)
    have hrest : .char 'Σ' ∉ rest := fun hmem => h (List.mem_cons_of_mem p hmem)
    rw [lowerWithin, lowerWithin, smallForm_of_ne hp _ (before' && !casedNext after' rest),
      ih hrest]

/-- The small form of a character has the same length everywhere. -/
lemma length_smallForm (final final' : Bool) (p : CodePoint) :
    (smallForm final p).length = (smallForm final' p).length := by
  cases p with
  | half unit => rfl
  | char c =>
    simp only [smallForm]
    split <;> rfl

/-- A sigma may become final where a word ends. -/
lemma smallForm_becomes {final final' : Bool} (h : final = true → final' = true) (p : CodePoint) :
    Becomes sigma finalSigma (smallForm final p) (smallForm final' p) := by
  cases p with
  | half unit => exact becomes_refl _ _ _
  | char c =>
    simp only [smallForm]
    split
    · cases final with
      | true =>
        rw [h rfl]
        exact becomes_refl _ _ _
      | false =>
        cases final' with
        | false => exact becomes_refl _ _ _
        | true => exact .cons (Or.inr ⟨rfl, rfl⟩) .nil
    · exact becomes_refl _ _ _

/-- A letter that comes next behind a text comes next in it and the letter, or one in the text
does. -/
lemma casedNext_mono {ps : List CodePoint} (h : casedNext false ps = true) :
    casedNext true ps = true := by
  induction ps with
  | nil => rfl
  | cons p rest ih =>
    rw [casedNext] at h ⊢
    split at h
    · next hignorable => rw [if_pos hignorable, ih h]
    · next hignorable => rw [if_neg hignorable, h]

/-- Behind a character that is skipped all is as before it, and behind any other character what came
before does not matter. -/
lemma wordStep_cases (p : CodePoint) :
    (∀ inWord, wordStep inWord p = inWord) ∨
      ∀ inWord inWord', wordStep inWord p = wordStep inWord' p := by
  cases hignorable : p.isOf isCaseIgnorable with
  | true => exact Or.inl fun inWord => if_pos hignorable
  | false =>
    refine Or.inr fun inWord inWord' => ?_
    simp only [wordStep, hignorable, Bool.false_eq_true, if_false]

/-- A letter in front of a part may make a sigma final. -/
lemma lowerWithin_becomes_before (after : Bool) (ps : List CodePoint) :
    Becomes sigma finalSigma (lowerWithin false after ps) (lowerWithin true after ps) := by
  induction ps with
  | nil => exact .nil
  | cons p rest ih =>
    have hfinal : (false && !casedNext after rest) = true →
        (true && !casedNext after rest) = true := by
      intro h
      cases h
    refine List.rel_append (smallForm_becomes hfinal p) ?_
    rcases wordStep_cases p with hskipped | hsame
    · rw [hskipped, hskipped]
      exact ih
    · rw [hsame false true]
      exact becomes_refl _ _ _

/-- A letter behind a part may make a sigma one within a word. -/
lemma lowerWithin_becomes_after (before : Bool) (ps : List CodePoint) :
    Becomes finalSigma sigma (lowerWithin before false ps) (lowerWithin before true ps) := by
  induction ps generalizing before with
  | nil => exact .nil
  | cons p rest ih =>
    have hfinal : (before && !casedNext true rest) = true →
        (before && !casedNext false rest) = true := by
      cases hnext : casedNext false rest with
      | false => cases before <;> simp
      | true => simp [casedNext_mono hnext]
    have hhead := (smallForm_becomes hfinal p).flip
    refine List.rel_append (hhead.imp ?_) (ih _)
    rintro a b (rfl | ⟨rfl, rfl⟩)
    · exact Or.inl rfl
    · exact Or.inr ⟨rfl, rfl⟩

/-- If neither a letter in front of a part nor a letter behind it changes its small form, then both
together do not change it. -/
lemma lowerWithin_of_both {ps : List CodePoint}
    (hbefore : lowerWithin true false ps = lowerWithin false false ps)
    (hafter : lowerWithin false true ps = lowerWithin false false ps) :
    lowerWithin true true ps = lowerWithin false false ps := by
  induction ps with
  | nil => rfl
  | cons p rest ih =>
    obtain ⟨hhead, htail⟩ := List.append_inj hbefore (length_smallForm _ _ p)
    obtain ⟨-, htail'⟩ := List.append_inj hafter (length_smallForm _ _ p)
    have hform : smallForm (true && !casedNext true rest) p =
        smallForm (false && !casedNext false rest) p := by
      cases hnext : casedNext true rest with
      | true => rfl
      | false =>
        have hnone : casedNext false rest = false :=
          Bool.eq_false_iff.mpr fun h => by cases hnext.symm.trans (casedNext_mono h)
        rw [← hhead, hnone]
    rw [lowerWithin, lowerWithin, hform]
    congr 1
    rcases wordStep_cases p with hskipped | hsame
    · rw [hskipped, hskipped] at htail
      rw [hskipped] at htail'
      rw [hskipped, hskipped]
      exact ih htail htail'
    · rw [hsame true false]
      exact htail'

/-! ### Parts with one small form -/

/-- A letter. -/
def letter : CodePoint := .char 'a'

/-- Whether a letter in front of a text and a letter behind it leave its small form as it is. -/
def Steady (ps : List CodePoint) : Prop :=
  lower (letter :: ps) = letter :: lower ps ∧ lower (ps ++ [letter]) = lower ps ++ [letter]

instance (ps : List CodePoint) : Decidable (Steady ps) :=
  inferInstanceAs (Decidable (_ ∧ _))

/-- The small form of a text behind a letter. -/
lemma lower_letter_cons (ps : List CodePoint) :
    lower (letter :: ps) = letter :: lowerWithin true false ps := by
  have hform : ∀ final, smallForm final letter = [letter] := by decide +kernel
  have hword : wordStep false letter = true := by decide +kernel
  rw [lower, lowerFrom_cons, hform, hword, lowerFrom_eq]
  rfl

/-- The small form of a text in front of a letter. -/
lemma lower_concat_letter (ps : List CodePoint) :
    lower (ps ++ [letter]) = lowerWithin false true ps ++ [letter] := by
  have hnext : casedFollows [letter] = true := by decide +kernel
  have hform : ∀ inWord, lowerFrom inWord [letter] = [letter] := by decide +kernel
  rw [lower, lowerFrom_append, hnext, hform]

/-- A text is steady if its small form is the same behind a letter and in front of one. -/
lemma steady_iff (ps : List CodePoint) :
    Steady ps ↔ lowerWithin true false ps = lowerWithin false false ps ∧
      lowerWithin false true ps = lowerWithin false false ps := by
  rw [Steady, lower_letter_cons, lower_concat_letter, lower, lowerFrom_eq, List.cons_inj_right,
    List.append_cancel_right_eq]

/-- A text without a capital sigma is steady. -/
lemma steady_of_not_mem {ps : List CodePoint} (h : .char 'Σ' ∉ ps) : Steady ps :=
  (steady_iff ps).mpr ⟨lowerWithin_of_not_mem h _ _ _ _, lowerWithin_of_not_mem h _ _ _ _⟩

/-- A steady text has its small form wherever it stands. -/
lemma Steady.lowerWithin_eq {ps : List CodePoint} (h : Steady ps) (before after : Bool) :
    lowerWithin before after ps = lower ps := by
  obtain ⟨hbefore, hafter⟩ := (steady_iff ps).mp h
  rw [lower, lowerFrom_eq]
  cases before with
  | false =>
    cases after with
    | false => rfl
    | true => exact hafter
  | true =>
    cases after with
    | false => exact hbefore
    | true => exact lowerWithin_of_both hbefore hafter

/-- The small form of a steady text stands in that of every text in which the text stands. -/
theorem Steady.lower_infix {ps qs : List CodePoint} (h : Steady ps) (hpart : ps <:+: qs) :
    lower ps <:+: lower qs := by
  obtain ⟨before, after, rfl⟩ := hpart
  have hparts : lower (before ++ ps ++ after) =
      lowerWithin false (casedFollows (ps ++ after)) before ++ lower ps ++
        lowerFrom (wordAfter (wordAfter false before) ps) after := by
    rw [List.append_assoc, lower, lowerFrom_append, lowerFrom_append _ ps after,
      h.lowerWithin_eq, List.append_assoc]
  rw [hparts]
  exact List.infix_append _ _ _

/-- A text is steady if its small form stands in that of the text behind a letter and in that of the
text in front of one: a letter changes a sigma only where it makes another one of it. -/
theorem steady_of_lower_infix {ps : List CodePoint} (hbehind : lower ps <:+: lower (letter :: ps))
    (hfront : lower ps <:+: lower (ps ++ [letter])) : Steady ps := by
  have heq : lower ps = lowerWithin false false ps := lowerFrom_eq false ps
  rw [steady_iff]
  constructor
  · -- The letter may only take small sigmas away, and there are as many as before.
    have hbecomes := lowerWithin_becomes_before false ps
    have hcount := hbehind.sublist.count_le sigma
    rw [lower_letter_cons, heq, List.count_cons_of_ne (by decide)] at hcount
    exact (hbecomes.eq_of_count_le sigma_ne_finalSigma hcount).symm
  · have hbecomes := lowerWithin_becomes_after false ps
    have hcount := hfront.sublist.count_le finalSigma
    have hletter : [letter].count finalSigma = 0 := by decide
    rw [lower_concat_letter, heq, List.count_append, hletter] at hcount
    exact (hbecomes.eq_of_count_le sigma_ne_finalSigma.symm hcount).symm

end Calculator.Text
