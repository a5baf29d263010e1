import Calculator.Interactive
import Calculator.Proofs.Decimal.Notation

/-!
# What every console shows

A console may refuse a text only if a mark begins in it. Numbers, messages of errors and the memory
have no marks, so their lines are shown on every console (`Console.reply_errorReport`,
`Console.reply_memoryLine`); whatever a session replies is interrupted by its history alone.
-/

namespace Calculator

/-! ### Texts without marks -/

/-- Whether no mark begins in a text. -/
def IsUnmarked (text : String) : Prop := '[' ∉ text.toList

instance (text : String) : Decidable (IsUnmarked text) :=
  inferInstanceAs (Decidable (¬_))

/-- The unit of the bracket is that of the bracket alone. -/
lemma markUnit_mem_ofChar_iff (c : Char) : markUnit ∈ CodeUnits.ofChar c ↔ c = '[' := by
  have hchar : c = '[' ↔ c.toNat = 0x5B := Char.toNat_inj.symm
  have hvalid := CodeUnits.not_half c
  rw [hchar]
  unfold CodeUnits.ofChar markUnit
  split
  · rw [List.mem_singleton, ← UInt16.toNat_inj, UInt16.toNat_ofNat']
    change 0x5B = _ ↔ _
    omega
  · have hhigh : (0x5B : UInt16) ≠ CodeUnits.high c := by
      rw [ne_eq, ← UInt16.toNat_inj, CodeUnits.high, UInt16.toNat_ofNat']
      change ¬0x5B = _
      omega
    have hlow : (0x5B : UInt16) ≠ CodeUnits.low c := by
      rw [ne_eq, ← UInt16.toNat_inj, CodeUnits.low, UInt16.toNat_ofNat']
      change ¬0x5B = _
      omega
    simp only [List.mem_cons, List.not_mem_nil, or_false, hhigh, hlow, false_iff]
    omega

/-- The units of a text hold the bracket just when the text does. -/
lemma markUnit_mem_ofString_iff (text : String) :
    markUnit ∈ CodeUnits.ofString text ↔ '[' ∈ text.toList := by
  simp only [CodeUnits.ofString, CodeUnits.ofChars, List.mem_flatMap, markUnit_mem_ofChar_iff,
    exists_eq_right]

namespace IsUnmarked

variable {text other : String}

/-- A text without marks. -/
lemma ofList {cs : List Char} (h : '[' ∉ cs) : IsUnmarked (.ofList cs) := by
  rwa [IsUnmarked, String.toList_ofList]

/-- Two texts without marks make up one. -/
lemma append (h : IsUnmarked text) (h' : IsUnmarked other) : IsUnmarked (text ++ other) := by
  rw [IsUnmarked, String.toList_append, List.mem_append]
  exact not_or_intro h h'

/-- No unit of the text is that of a bracket. -/
lemma markUnit_notMem (h : IsUnmarked text) : markUnit ∉ CodeUnits.ofString text :=
  fun hmem => h ((markUnit_mem_ofString_iff text).mp hmem)

/-- A text without marks is legible. -/
lemma legible (h : IsUnmarked text) : Legible (.ofString text) := .plain h.markUnit_notMem

/-- A text without marks is legible in a style, behind blanks and in front of another such text. -/
lemma legible_styled_between {blanks style : String} (blank : ∀ c ∈ blanks.toList, c = ' ')
    (name : isStyleName style = true) (h : IsUnmarked text) (h' : IsUnmarked other) :
    Legible (.ofString (blanks ++ (styled style text ++ other))) := by
  have hstyled := Legible.styled blank name h.markUnit_notMem h'.markUnit_notMem
  simp only [← CodeUnits.ofString_append] at hstyled
  simpa only [styled, String.append_assoc] using hstyled

/-- A text without marks is legible in a style, in front of a text without marks. -/
lemma legible_styled_append {style : String} (name : isStyleName style = true)
    (h : IsUnmarked text) (h' : IsUnmarked other) :
    Legible (.ofString (styled style text ++ other)) := by
  have hbetween : Legible (.ofString ("" ++ (styled style text ++ other))) :=
    h.legible_styled_between (by simp) name h'
  rwa [String.empty_append] at hbetween

/-- A text without marks is legible in a style. -/
lemma legible_styled {style : String} (name : isStyleName style = true) (h : IsUnmarked text) :
    Legible (.ofString (styled style text)) := by
  have hbetween : Legible (.ofString (styled style text ++ "")) :=
    h.legible_styled_append name (by decide)
  rwa [String.append_empty] at hbetween

end IsUnmarked

/-! ### Numbers and messages -/

/-- Digits are no marks. -/
lemma bracket_notMem_digits (n : Nat) : '[' ∉ digits n :=
  fun h => absurd (isDigit_of_mem_digits h) (by decide)

/-- Digits behind zeros are no marks. -/
lemma bracket_notMem_paddedDigits (width n : Nat) : '[' ∉ paddedDigits width n := by
  simp [paddedDigits, List.mem_replicate, bracket_notMem_digits]

/-- A decimal has no marks. -/
lemma bracket_notMem_decimal (d : Decimal) : '[' ∉ Layout.plain.decimal d := by
  have hdigits := bracket_notMem_digits d.coefficient
  simp only [Layout.decimal]
  generalize digits d.coefficient = ds at hdigits
  split
  · simp only [Layout.positional]
    split
    · simp [hdigits, List.mem_replicate]
    · split
      · simp [hdigits, List.mem_replicate, Layout.plain]
      · have htake : ∀ n, '[' ∉ ds.take n := fun n h => hdigits (List.mem_of_mem_take h)
        have hdrop : ∀ n, '[' ∉ ds.drop n := fun n h => hdigits (List.mem_of_mem_drop h)
        simp [htake, hdrop]
  · have hexponent : ∀ e, '[' ∉ Layout.plain.exponentText e := by
      intro e
      simp only [Layout.exponentText, Layout.plain, List.mem_cons, not_or]
      refine ⟨by decide, ?_, bracket_notMem_paddedDigits _ _⟩
      split <;> decide
    rcases ds with _ | ⟨d, _ | ⟨e, rest⟩⟩
    · exact List.not_mem_nil
    · simpa [Layout.exponential, hexponent] using hdigits
    · simpa [Layout.exponential, hexponent, and_assoc] using hdigits

/-- A sign is no mark. -/
lemma bracket_notMem_signText {negative : Bool} {cs : List Char} (h : '[' ∉ cs) :
    '[' ∉ Double.signText negative cs := by
  cases negative
  · exact h
  · exact List.not_mem_cons_of_ne_of_not_mem (by decide) h

/-- A number on the display has no marks. -/
lemma isUnmarked_display (x : Double) : IsUnmarked x.display := by
  refine IsUnmarked.ofList ?_
  cases x with
  | nan => decide
  | infinite negative => exact bracket_notMem_signText (by decide)
  | finite negative m =>
    simp only [Double.displayChars]
    split
    · decide
    · next hm =>
      split
      · exact bracket_notMem_signText (bracket_notMem_digits _)
      · simp only [Double.chars, Layout.magnitude, hm, if_false]
        exact bracket_notMem_signText (bracket_notMem_decimal _)

/-- The message of an error has no marks. -/
lemma isUnmarked_message (e : Error) : IsUnmarked e.message := by
  have hcause : IsUnmarked e.cause.message := by
    cases e.cause <;> decide
  unfold Error.message
  split
  · exact hcause
  · have hcolumn : IsUnmarked " at column " := by decide
    refine (hcause.append hcolumn).append (IsUnmarked.ofList ?_)
    split
    · exact List.not_mem_cons_of_ne_of_not_mem (by decide) (bracket_notMem_digits _)
    · exact bracket_notMem_digits _

/-! ### What is shown -/

/-- Whether all texts of an item are legible. -/
def ConsoleItem.IsLegible (item : ConsoleItem) : Prop := ∀ text ∈ item.texts, Legible text

namespace Console

variable (console : Console)

/-- A legible item is not refused. -/
lemma refusalOf?_of_legible {item : ConsoleItem} (h : item.IsLegible) :
    console.refusalOf? item = none := by
  rw [refusalOf?, List.findSome?_eq_none_iff]
  exact fun text htext => console.legible (h text htext)

/-- Legible items are shown on every console. -/
lemma print_of_legible {items : List ConsoleItem} (h : ∀ item ∈ items, item.IsLegible) :
    console.print items = (items, none) := by
  induction items with
  | nil => rfl
  | cons item rest ih =>
    obtain ⟨hitem, hrest⟩ := List.forall_mem_cons.mp h
    simp only [print, console.refusalOf?_of_legible hitem, ih hrest]

/-- A reply of legible items is not interrupted. -/
lemma reply_of_legible {items : List ConsoleItem} (h : ∀ item ∈ items, item.IsLegible) :
    console.reply items = .written (.shown items) := by
  simp only [reply, console.print_of_legible h]
  rfl

/-- A line that is legible. -/
lemma isLegible_line {text : String} (h : Legible (.ofString text)) :
    (ConsoleItem.line text).IsLegible :=
  fun _ htext => List.mem_singleton.mp htext ▸ h

/-- The message of an error is legible. -/
lemma isLegible_errorLine (e : Error) : (Output.errorLine e).IsLegible := by
  refine isLegible_line ?_
  rw [String.append_assoc]
  exact IsUnmarked.legible_styled_append (by decide) (by decide)
    (IsUnmarked.append (by decide) (isUnmarked_message e))

/-- The message of an error is shown. -/
@[simp] lemma reply_errorLine (e : Error) :
    console.reply [Output.errorLine e] = .written (.shown [Output.errorLine e]) :=
  console.reply_of_legible fun _ hitem => List.mem_singleton.mp hitem ▸ isLegible_errorLine e

/-- A report of an error is shown. Nothing in the source is taken for a mark. -/
@[simp] lemma reply_errorReport (source : String) (e : Error) :
    console.reply (Output.errorReport source e) =
      .written (.shown (Output.errorReport source e)) := by
  refine console.reply_of_legible fun item hitem => ?_
  unfold Output.errorReport at hitem
  split at hitem
  · exact List.mem_singleton.mp hitem ▸ isLegible_errorLine e
  · rcases List.mem_cons.mp hitem with rfl | hcaret
    · exact isLegible_errorLine e
    · rw [List.mem_singleton.mp hcaret]
      exact fun _ htext => absurd htext List.not_mem_nil

/-- The memory is shown. -/
@[simp] lemma reply_memoryLine (s : Session) :
    console.reply [Interactive.memoryLine s] = .written (.shown [Interactive.memoryLine s]) := by
  refine console.reply_of_legible fun item hitem => ?_
  rw [List.mem_singleton.mp hitem]
  refine isLegible_line ?_
  rw [← String.append_empty (s := styled _ _)]
  exact IsUnmarked.legible_styled_between (by simp) (by decide)
    (IsUnmarked.append (by decide) (isUnmarked_display _))
    (by decide)

/-- The help is shown. -/
@[simp] lemma reply_help :
    console.reply [Interactive.help] = .written (.shown [Interactive.help]) := by
  refine console.reply_of_legible fun item hitem => ?_
  rw [List.mem_singleton.mp hitem]
  exact isLegible_line (IsUnmarked.legible_styled (by decide) (by decide +kernel))

/-- A console that refuses a text in which there is just one mark. -/
def strict : Console where
  refusal? text := if text.count markUnit = 1 then some ⟨"mark without another"⟩ else none
  legible := by
    intro text h
    refine if_neg ?_
    cases h with
    | plain unmarked =>
      rw [List.count_eq_zero.mpr unmarked]
      decide
    | @styled blanks style part rest =>
      have hopening : markUnit ∈ CodeUnits.ofString (blanks ++ openingMark style) := by
        simp [markUnit_mem_ofString_iff, openingMark]
      have hclosing : markUnit ∈ CodeUnits.ofString (closingMark style) := by
        simp [markUnit_mem_ofString_iff, closingMark]
      have hfirst := List.count_pos_iff.mpr hopening
      have hlast := List.count_pos_iff.mpr hclosing
      simp only [List.count_append]
      omega

end Console

end Calculator
