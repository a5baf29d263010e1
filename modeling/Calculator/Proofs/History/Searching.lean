import Calculator.Proofs.History.Appending
import Calculator.Proofs.Text.Lowercase

/-!
# Searches

A search selects entries of one category, or of all, in the order in which they are listed
(`Store.search_selects`). Whether it selects every entry in which the term stands depends on the
term: it does for every term that is written the same in small letters wherever it stands, and for
no other one. A word that ends in a capital sigma is not: an entry with a longer word that begins
with it is not found (`Store.search_misses_sigma`).
-/

namespace Calculator

open Text (letter lower Steady occursIn_iff)

namespace Entry

/-- A term stands in the equation or in the result of an entry as it is written. -/
def Contains (e : Entry) (term : String) : Prop :=
  CodePoint.ofString term <:+: e.equation.points ∨ CodePoint.ofString term <:+: e.result.points

/-- An entry belongs to a category, to any of them if none is given or the name is `all`. -/
def InCategory (e : Entry) (category : Option String) : Prop :=
  ∀ name ∈ category, name = "all" ∨ e.category = CodeUnits.ofString name

/-- Every entry belongs to no category in particular. -/
lemma inCategory_none (e : Entry) : e.InCategory none := nofun

/-- The test of the category decides whether the entry belongs to it. -/
lemma isOf_iff (e : Entry) (category : Option String) :
    e.isOf category = true ↔ e.InCategory category := by
  cases category with
  | none => exact iff_of_true rfl e.inCategory_none
  | some name =>
    simp only [isOf, InCategory, Bool.or_eq_true, decide_eq_true_eq, Option.mem_def,
      Option.some.injEq, forall_eq']
    rfl

/-- An entry matches a term whose small form stands in that of the equation or of the result. -/
lemma isMatch_iff (e : Entry) (term : String) :
    e.isMatch term = true ↔
      lower (CodePoint.ofString term) <:+: lower e.equation.points ∨
        lower (CodePoint.ofString term) <:+: lower e.result.points := by
  simp only [isMatch, Bool.or_eq_true, occursIn_iff]

/-- An entry with the same text as equation and as result. -/
def twice (text : String) : Entry := .ofTexts text text "" ""

/-- In an entry with one text stands what stands in the text. -/
lemma twice_contains_iff (text term : String) :
    (twice text).Contains term ↔ CodePoint.ofString term <:+: CodePoint.ofString text := by
  simp only [Contains, twice, ofTexts, CodeUnits.ofString, CodeUnits.points_ofChars, or_self]
  rfl

/-- Such an entry matches the terms whose small forms stand in that of the text. -/
lemma twice_isMatch_iff (text term : String) :
    (twice text).isMatch term = true ↔
      lower (CodePoint.ofString term) <:+: lower (CodePoint.ofString text) := by
  simp only [isMatch_iff, twice, ofTexts, CodeUnits.ofString, CodeUnits.points_ofChars, or_self]
  rfl

/-- A term is steady just when every entry in which it stands matches it. -/
lemma steady_iff_isMatch (term : String) :
    Steady (CodePoint.ofString term) ↔ ∀ e : Entry, e.Contains term → e.isMatch term = true := by
  constructor
  · intro hsteady e hcontains
    exact (e.isMatch_iff term).mpr (hcontains.imp hsteady.lower_infix hsteady.lower_infix)
  · intro h
    have hletter : CodePoint.ofString "a" = [letter] := rfl
    have happend : ∀ a b : String,
        CodePoint.ofString (a ++ b) = CodePoint.ofString a ++ CodePoint.ofString b := by
      simp [CodePoint.ofString]
    have hbehind := h (twice ("a" ++ term)) ((twice_contains_iff _ _).mpr (by
      rw [happend]
      exact (List.suffix_append _ _).isInfix))
    have hfront := h (twice (term ++ "a")) ((twice_contains_iff _ _).mpr (by
      rw [happend]
      exact (List.prefix_append _ _).isInfix))
    rw [twice_isMatch_iff, happend, hletter] at hbehind hfront
    exact Text.steady_of_lower_infix hbehind hfront

/-- A term without a capital sigma is steady. -/
lemma steady_of_not_mem {term : String} (h : 'Σ' ∉ term.toList) :
    Steady (CodePoint.ofString term) := by
  refine Text.steady_of_not_mem fun hmem => ?_
  obtain ⟨c, hc, heq⟩ := List.mem_map.mp hmem
  cases heq
  exact h hc

end Entry

namespace Store

/-- What a search for a term selects: entries in the order in which they are listed, all of the
category, and, if the term is steady, all those of the category in which the term stands. -/
structure Selects (term : String) (category : Option String) (listed found : List Entry) :
    Prop where
  sublist : found.Sublist listed
  inCategory : ∀ e ∈ found, e.InCategory category
  complete : Steady (CodePoint.ofString term) → ∀ wanted : List Entry, wanted.Sublist listed →
    (∀ e ∈ wanted, e.InCategory category ∧ e.Contains term) → wanted.Sublist found

/-- The entries of a category that match a term are a selection. -/
lemma selects_filter (term : String) (category : Option String) (listed : List Entry) :
    Selects term category listed (listed.filter fun e => e.isMatch term && e.isOf category) where
  sublist := List.filter_sublist
  inCategory := by
    intro e hmem
    have htests := (List.mem_filter.mp hmem).2
    exact (e.isOf_iff category).mp (Bool.and_eq_true_iff.mp htests).2
  complete := by
    intro hsteady wanted hsub hwanted
    have hkept : wanted.filter (fun e => e.isMatch term && e.isOf category) = wanted := by
      refine List.filter_eq_self.mpr fun e hmem => ?_
      obtain ⟨hcategory, hcontains⟩ := hwanted e hmem
      have hmatch := (Entry.steady_iff_isMatch term).mp hsteady e hcontains
      exact Bool.and_eq_true_iff.mpr ⟨hmatch, (e.isOf_iff category).mpr hcategory⟩
    have hfiltered := hsub.filter fun e => e.isMatch term && e.isOf category
    rwa [hkept] at hfiltered

/-- The empty term and no category select every entry. -/
lemma search_empty (store : Store) : store.search "" none = store.entries := by
  have hall : ∀ e : Entry, (e.isMatch "" && e.isOf none) = true := by
    intro e
    have hmatch : e.isMatch "" = true := (e.isMatch_iff "").mpr (Or.inl (List.nil_infix))
    rw [hmatch]
    rfl
  rw [search]
  cases store.entries with
  | error failure => rfl
  | ok es => exact congrArg Except.ok (List.filter_eq_self.mpr fun e _ => hall e)

/-- A search fails just as the listing does, and otherwise selects among the entries that are
listed; with the empty term and no category it selects them all. A term is steady just when every
entry in which it stands matches it. Terms without a capital sigma are. -/
theorem search_selects (store : Store) (term : String) (category : Option String) :
    (∀ failure, store.entries = .error failure →
        store.search term category = .error failure) ∧
      (∀ listed, store.entries = .ok listed →
        ∃ found, store.search term category = .ok found ∧ Selects term category listed found) ∧
      store.search "" none = store.entries ∧
      (Steady (CodePoint.ofString term) ↔ ∀ e : Entry, e.Contains term → e.isMatch term = true) ∧
      ('Σ' ∉ term.toList → Steady (CodePoint.ofString term)) := by
  refine ⟨fun failure herror => ?_, fun listed hlisted => ?_, store.search_empty,
    Entry.steady_iff_isMatch term, Entry.steady_of_not_mem⟩
  · rw [search, herror]
  · have hsearch : store.search term category =
        .ok (listed.filter fun e => e.isMatch term && e.isOf category) := by
      rw [search, hlisted]
    exact ⟨_, hsearch, selects_filter term category listed⟩

/-- A calculation whose text has a sigma within a word. -/
def innerSigma : Entry := .ofTexts "ΑΣΑ" "1" "standard" sampleMoment.recorded

/-- The first two letters of the text are not found in the only entry. -/
theorem search_misses_sigma :
    innerSigma.Contains "ΑΣ" ∧
      (run ⟨.missing sampleSpare, "tester"⟩
        [.record sampleMoment "ΑΣΑ" "1" "standard", .entries, .search "ΑΣ" none]).2 =
        [.recorded innerSigma, .listed [innerSigma], .listed []] := by
  constructor
  · exact Or.inl ⟨[], [.char 'Α'], by decide +kernel⟩
  · decide +kernel

end Store

end Calculator
