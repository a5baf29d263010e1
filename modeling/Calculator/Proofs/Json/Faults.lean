import Calculator.Json.Reading
import Mathlib.Data.List.TakeWhile
import Mathlib.Tactic.Lemma

/-!
# What the reader of JSON refuses beside malformed texts

A text is refused for a whole number with too many digits only if that many digits stand in it one
after the other, and for its depth only if it has too many opening brackets
(`Json.excess_of_ofChars`). So every other text is read, or it is malformed.
-/

namespace Calculator

namespace Json

/-! ### Causes -/

/-- Whether a character opens an array or an object. -/
def isOpening (c : Char) : Bool := c = '[' ∨ c = '\x7b'

/-- The number of opening brackets of a text. -/
def openings (cs : List Char) : Nat := cs.countP isOpening

/-- A text has what a fault is about, when a number of levels may be opened. -/
inductive Excess (levels : Nat) (cs : List Char) : Fault → Prop
  | malformed : Excess levels cs .malformed
  | longInteger {ds : List Char} (run : ds <:+: cs) (digits : ∀ c ∈ ds, c.isDigit = true)
      (long : longestInteger < ds.length) : Excess levels cs (.longInteger ds.length)
  | tooDeep {isObject : Bool} (deep : levels < openings cs) : Excess levels cs (.tooDeep isObject)

/-- Reading goes on with the end of a text, or the text has what the fault is about. -/
inductive Explained (levels : Nat) (cs : List Char) : Except Fault (Json × List Char) → Prop
  | read {value : Json} {rest : List Char} (suffix : rest <:+ cs) :
      Explained levels cs (.ok (value, rest))
  | refused {fault : Fault} (excess : Excess levels cs fault) : Explained levels cs (.error fault)

/-- What the end of a text has, the text has. -/
lemma Excess.of_suffix {levels : Nat} {cs rest : List Char} {fault : Fault}
    (h : Excess levels rest fault) (hsuffix : rest <:+ cs) : Excess levels cs fault := by
  cases h with
  | malformed => exact .malformed
  | longInteger run digits long => exact .longInteger (run.trans hsuffix.isInfix) digits long
  | tooDeep deep => exact .tooDeep (Nat.lt_of_lt_of_le deep (hsuffix.sublist.countP_le))

/-- What is read of the end of a text is read of the text. -/
lemma Explained.of_suffix {levels : Nat} {cs rest : List Char}
    {result : Except Fault (Json × List Char)} (h : Explained levels rest result)
    (hsuffix : rest <:+ cs) : Explained levels cs result := by
  cases h with
  | read suffix => exact .read (suffix.trans hsuffix)
  | refused excess => exact .refused (excess.of_suffix hsuffix)

/-- What is left of a text is its end. -/
lemma Explained.suffix {levels : Nat} {cs rest : List Char} {value : Json}
    (h : Explained levels cs (.ok (value, rest))) : rest <:+ cs := by
  cases h with
  | read suffix => exact suffix

/-- An opening bracket allows for one level more. -/
lemma Explained.of_opening {levels : Nat} {c : Char} {rest : List Char}
    {result : Except Fault (Json × List Char)} (h : Explained levels rest result)
    (hc : isOpening c = true) : Explained (levels + 1) (c :: rest) result := by
  have hsuffix : rest <:+ c :: rest := List.suffix_cons c rest
  cases h with
  | read suffix => exact .read (suffix.trans hsuffix)
  | refused excess =>
    refine .refused ?_
    cases excess with
    | malformed => exact .malformed
    | longInteger run digits long => exact .longInteger (run.trans hsuffix.isInfix) digits long
    | tooDeep deep =>
      refine .tooDeep ?_
      rw [openings, List.countP_cons_of_pos hc]
      exact Nat.succ_lt_succ deep

/-! ### Parts of values -/

/-- Skipping blanks leaves the end of a text. -/
lemma skip_suffix (cs : List Char) : skip cs <:+ cs := List.dropWhile_suffix isSpace

/-- Behind a text between quotes follows the end of what it stands in. -/
lemma suffix_of_readText {before : CodeUnits} {cs rest : List Char} {s : CodeUnits}
    (h : readText before cs = some (s, rest)) : rest <:+ cs := by
  fun_induction readText before cs with
  | case1 => cases h
  | case2 before tail =>
    cases h
    exact List.suffix_cons _ _
  | case3 => cases h
  | case4 before a b c d tail n hn ih =>
    exact (ih h).trans ⟨['\\', 'u', a, b, c, d], rfl⟩
  | case5 => cases h
  | case6 before letter tail hne c hc ih =>
    exact (ih h).trans ⟨['\\', letter], rfl⟩
  | case7 => cases h
  | case8 before c tail hquote hnumber hletter hplain ih =>
    exact (ih h).trans (List.suffix_cons _ _)

/-- The whole part of a number consists of digits at the beginning of the text. -/
lemma wholePart_prefix (cs : List Char) :
    wholePart cs <+: cs ∧ ∀ c ∈ wholePart cs, c.isDigit = true := by
  unfold wholePart
  split
  · exact ⟨⟨_, rfl⟩, by simp⟩
  · refine ⟨List.takeWhile_prefix _, fun c hc => ?_⟩
    exact List.mem_takeWhile_imp hc

/-- A number is refused only for its digits. -/
lemma explained_readUnsigned (levels : Nat) (negative : Bool) (cs : List Char) :
    Explained levels cs (readUnsigned negative cs) := by
  obtain ⟨hdigitsFirst, hdigits⟩ := wholePart_prefix cs
  have hdrop : ∀ {xs ys : List Char} {p : Prop} [Decidable p] (n : Nat), xs <:+ ys →
      (if p then xs else xs.drop n) <:+ ys := by
    intro xs ys p _ n hsuffix
    split
    · exact hsuffix
    · exact (List.drop_suffix n xs).trans hsuffix
  unfold readUnsigned
  extract_lets whole rest fraction rest₁ exponent rest₂
  have hrest : rest₂ <:+ cs := hdrop _ (hdrop _ (List.drop_suffix _ cs))
  split
  · exact .refused .malformed
  · split
    · split
      · next hlong => exact .refused (.longInteger hdigitsFirst.isInfix hdigits hlong)
      · exact .read hrest
    · exact .read hrest

/-! ### Values -/

/-- A value is explained if the elements and the members inside it are. -/
lemma explained_readValue_succ {steps : Nat}
    (helements : ∀ levels before cs, Explained levels cs (readElements steps levels before cs))
    (hmembers : ∀ levels before cs, Explained levels cs (readMembers steps levels before cs))
    (levels : Nat) (cs : List Char) : Explained levels cs (readValue (steps + 1) levels cs) := by
  have hdeep : ∀ {c rest isObject}, isOpening c = true →
      Explained 0 (c :: rest) (.error (.tooDeep isObject)) := by
    intro c rest isObject hc
    refine .refused (.tooDeep ?_)
    rw [openings, List.countP_cons_of_pos hc]
    exact Nat.succ_pos _
  have hclosed : ∀ {value : Json} {c d : Char} {rest rest' : List Char}, skip rest = d :: rest' →
      Explained levels (c :: rest) (.ok (value, rest')) := by
    intro value c d rest rest' hskip
    refine .read (((List.suffix_cons d rest').trans ?_).trans (List.suffix_cons c rest))
    rw [← hskip]
    exact skip_suffix rest
  rw [readValue.eq_def]
  simp only
  split
  · next rest =>
    split
    · exact .refused .malformed
    · next s rest' htext =>
      exact .read ((suffix_of_readText htext).trans (List.suffix_cons _ _))
  · next rest =>
    split
    · exact hdeep rfl
    · split
      · next rest' hskip => exact hclosed hskip
      · exact ((hmembers _ _ _).of_suffix (skip_suffix rest)).of_opening rfl
  · next rest =>
    split
    · exact hdeep rfl
    · split
      · next rest' hskip => exact hclosed hskip
      · exact ((helements _ _ _).of_suffix (skip_suffix rest)).of_opening rfl
  · next rest => exact .read ⟨['n', 'u', 'l', 'l'], rfl⟩
  · next rest => exact .read ⟨['t', 'r', 'u', 'e'], rfl⟩
  · next rest => exact .read ⟨['f', 'a', 'l', 's', 'e'], rfl⟩
  · next rest => exact .read ⟨['N', 'a', 'N'], rfl⟩
  · next rest => exact .read ⟨['I', 'n', 'f', 'i', 'n', 'i', 't', 'y'], rfl⟩
  · next rest => exact .read ⟨['-', 'I', 'n', 'f', 'i', 'n', 'i', 't', 'y'], rfl⟩
  · exact (explained_readUnsigned levels true _).of_suffix (List.suffix_cons _ _)
  · exact explained_readUnsigned levels false cs

/-- Every value is explained, the elements of an array from any one on, and the members of an
object. -/
lemma explained_read (steps : Nat) :
    (∀ levels cs, Explained levels cs (readValue steps levels cs)) ∧
    (∀ levels before cs, Explained levels cs (readElements steps levels before cs)) ∧
    ∀ levels before cs, Explained levels cs (readMembers steps levels before cs) := by
  induction steps with
  | zero =>
    refine ⟨fun levels cs => ?_, fun levels before cs => ?_, fun levels before cs => ?_⟩
    · rw [readValue]
      exact .refused .malformed
    · rw [readElements]
      exact .refused .malformed
    · rw [readMembers]
      exact .refused .malformed
  | succ steps ih =>
    obtain ⟨ihvalue, ihelements, ihmembers⟩ := ih
    -- Behind a character that follows a value, the text goes on with its end.
    have hbehind : ∀ {cs rest rest' : List Char} {c : Char}, rest <:+ cs → skip rest = c :: rest' →
        rest' <:+ cs := by
      intro cs rest rest' c hrest hskip
      have hcons : c :: rest' <:+ rest := by
        rw [← hskip]
        exact skip_suffix rest
      exact ((List.suffix_cons c rest').trans hcons).trans hrest
    refine ⟨explained_readValue_succ ihelements ihmembers, fun levels before cs => ?_,
      fun levels before cs => ?_⟩
    · rw [readElements.eq_def]
      simp only
      have hvalue := ihvalue levels cs
      split
      · next fault hread =>
        rw [hread] at hvalue
        exact hvalue
      · next value rest hread =>
        rw [hread] at hvalue
        split
        · next rest' hskip =>
          exact (ihelements _ _ _).of_suffix
            ((skip_suffix rest').trans (hbehind hvalue.suffix hskip))
        · next rest' hskip => exact .read (hbehind hvalue.suffix hskip)
        · exact .refused .malformed
    · rw [readMembers.eq_def]
      simp only
      split
      · next rest =>
        split
        · exact .refused .malformed
        · next key rest' htext =>
          have hkey : rest' <:+ '"' :: rest :=
            (suffix_of_readText htext).trans (List.suffix_cons _ _)
          split
          · next rest₂ hcolon =>
            have hrest : skip rest₂ <:+ '"' :: rest :=
              (skip_suffix rest₂).trans (hbehind hkey hcolon)
            have hvalue := (ihvalue levels (skip rest₂)).of_suffix hrest
            split
            · next fault hread =>
              rw [hread] at hvalue
              exact hvalue
            · next value tail hread =>
              rw [hread] at hvalue
              split
              · next tail' hskip =>
                exact (ihmembers _ _ _).of_suffix
                  ((skip_suffix tail').trans (hbehind hvalue.suffix hskip))
              · next tail' hskip => exact .read (hbehind hvalue.suffix hskip)
              · exact .refused .malformed
          · exact .refused .malformed
      · exact .refused .malformed

/-! ### Whole texts -/

/-- A text that is refused has what the fault is about. -/
theorem excess_of_ofChars {cs : List Char} {fault : Fault} (h : ofChars cs = .error fault) :
    Excess deepestNesting cs fault := by
  have hvalue := ((explained_read (2 * cs.length + 2)).1 deepestNesting (skip cs)).of_suffix
    (skip_suffix cs)
  unfold ofChars at h
  split at h
  · next fault' hread =>
    cases h
    rw [hread] at hvalue
    cases hvalue with
    | refused excess => exact excess
  · split at h
    · cases h
    · cases h
      exact .malformed

end Json

end Calculator
