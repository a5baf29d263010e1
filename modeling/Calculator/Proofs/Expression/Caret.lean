import Calculator.Proofs.Expression.Outcome

/-!
# Carets under sources

The caret of an error stands on a line behind the whole source, in the column that is the position
of the error in the source. It stands under the character at the position (`CaretUnder`) just when
the source has no line break, or has nothing behind its first line but carets of the same column
(`caretUnder_iff`).
-/

namespace Calculator

/-! ### Repeated words -/

/-- A word that begins with a letter it has nowhere else: a text that may stand in front of it as
well as behind it is a repetition of the word. -/
lemma exists_flatten_replicate {α : Type} {c : α} {cs : List α} (hc : c ∉ cs) {xs : List α}
    (h : xs ++ c :: cs = c :: cs ++ xs) :
    ∃ count, xs = (List.replicate count (c :: cs)).flatten := by
  induction hlength : xs.length using Nat.strongRecOn generalizing xs with
  | _ n ih =>
    by_cases hnil : xs = []
    · exact ⟨0, hnil⟩
    have hprefix : c :: cs <+: xs := by
      rcases List.prefix_or_prefix_of_prefix (List.prefix_append (c :: cs) xs)
        (h ▸ List.prefix_append xs (c :: cs)) with hword | ⟨rest, hrest⟩
      · exact hword
      · -- The rest of the word begins with its first letter, so there is none.
        obtain ⟨x, xs', rfl⟩ := List.exists_cons_of_ne_nil hnil
        obtain ⟨rfl, hcs⟩ := List.cons.inj hrest
        cases rest with
        | nil => exact ⟨[], by rw [List.append_nil, ← hrest, List.append_nil]⟩
        | cons d rest =>
          rw [← hrest, List.append_assoc, List.append_cancel_left_eq] at h
          obtain ⟨hd, -⟩ := List.cons.inj h
          refine absurd ?_ hc
          rw [← hcs, ← hd]
          simp
    obtain ⟨ys, rfl⟩ := hprefix
    rw [List.append_assoc, List.append_cancel_left_eq] at h
    have hshort : ys.length < n := by
      rw [← hlength, List.length_append, List.length_cons]
      omega
    obtain ⟨count, hys⟩ := ih ys.length hshort h rfl
    exact ⟨count + 1, by rw [hys, List.replicate_succ, List.flatten_cons]⟩

/-! ### Carets -/

/-- A line break and a line with a caret in a column, counted from zero. -/
def caretBreak (column : Nat) : List Char := '\n' :: (List.replicate column ' ' ++ ['^'])

/-- The spaces in front of the caret take up its column. -/
lemma length_caretBreak (column : Nat) : (caretBreak column).length = column + 2 := by
  simp [caretBreak]

/-- A caret stands under a position of a source, in a text that is shown: directly behind the line
of the position stands a line of spaces and the caret, which is as far from its beginning as the
position is from the beginning of its line. The end of the source is a position of the last line. -/
inductive CaretUnder (isBreak : Char → Bool) (source : List Char) (position : Nat) :
    List Char → Prop
  | intro {before line after : List Char} (split : source = before ++ line ++ after)
      (opening : ∀ c ∈ before.getLast?, isBreak c = true)
      (unbroken : ∀ c ∈ line, isBreak c = false)
      (closing : ∀ c ∈ after.head?, isBreak c = true)
      (first : before.length ≤ position)
      (last : position < before.length + line.length ∨ position = source.length ∧ after = []) :
      CaretUnder isBreak source position
        (before ++ line ++ caretBreak (position - before.length) ++ after)

/-- The caret of an error stands behind the source, in the column of its position. -/
lemma toList_caretLine (source : String) {e : Error} {position : Nat}
    (h : e.position = some (position : Int)) :
    (e.caretLine source).toList = source.toList ++ caretBreak position := by
  rw [Error.caretLine, h]
  simp [caretBreak]

/-- Where a caret behind the source stands under a position, the position lies on the first line,
and nothing but the same line of a caret follows it in the source. -/
lemma exists_of_caretUnder {isBreak : Char → Bool} {source : List Char} {position : Nat}
    (h : CaretUnder isBreak source position (source ++ caretBreak position)) :
    ∃ line count, (∀ c ∈ line, isBreak c = false) ∧
      source = line ++ (List.replicate count (caretBreak position)).flatten := by
  generalize hshown : source ++ caretBreak position = shown at h
  obtain ⟨split, -, unbroken, -, first, -⟩ := h
  rename_i before line after
  have hbefore : before = [] := by
    have hcount := congrArg List.length hshown
    rw [split] at hcount
    simp only [List.length_append, length_caretBreak] at hcount
    exact List.length_eq_zero_iff.mp (by omega)
  subst hbefore
  rw [split] at hshown
  simp only [List.nil_append, List.length_nil, Nat.sub_zero, List.append_assoc,
    List.append_cancel_left_eq] at hshown
  have hnew : '\n' ∉ List.replicate position ' ' ++ ['^'] := by simp
  obtain ⟨count, hafter⟩ := exists_flatten_replicate hnew hshown
  exact ⟨line, count, unbroken, by rw [split, hafter]; rfl⟩

/-- A position of a character other than spacing lies on the first line where nothing but lines of a
caret in its own column follow. -/
lemma lt_length_of_visible {line : List Char} {position count : Nat} {c : Char}
    (h : (line ++ (List.replicate count (caretBreak position)).flatten)[position]? = some c)
    (visible : isSpacing c = false) : position < line.length := by
  refine Nat.lt_of_not_le fun hle => ?_
  rw [List.getElem?_append_right hle] at h
  cases count with
  | zero => cases h
  | succ count =>
    rw [List.replicate_succ, List.flatten_cons, caretBreak, List.cons_append,
      List.getElem?_cons] at h
    split at h
    · cases h
      cases visible
    · -- The column of the caret is at least as far from the first line as the position.
      have hspaces : position - line.length - 1 < (List.replicate position ' ').length := by
        rw [List.length_replicate]
        omega
      rw [List.append_assoc, List.getElem?_append_left hspaces, List.getElem?_replicate] at h
      split at h
      · cases h
        cases visible
      · cases h

/-- Where nothing but lines of the caret follows the first line, the caret behind the source stands
under its position. -/
lemma caretUnder_of_eq {isBreak : Char → Bool} (hbreak : isBreak '\n' = true) {line : List Char}
    {position count : Nat} (unbroken : ∀ c ∈ line, isBreak c = false) {source : List Char}
    (split : source = line ++ (List.replicate count (caretBreak position)).flatten)
    (place : position = source.length ∨ ∃ c, source[position]? = some c ∧ isSpacing c = false) :
    CaretUnder isBreak source position (source ++ caretBreak position) := by
  have hshown : source ++ caretBreak position =
      [] ++ line ++ caretBreak (position - ([] : List Char).length) ++
        (List.replicate count (caretBreak position)).flatten := by
    have hlast : (List.replicate (count + 1) (caretBreak position)).flatten =
        (List.replicate count (caretBreak position)).flatten ++ caretBreak position := by
      rw [List.replicate_succ', List.flatten_append, List.flatten_singleton]
    rw [List.replicate_succ, List.flatten_cons] at hlast
    rw [split, List.append_assoc, ← hlast, List.nil_append, List.append_assoc, List.length_nil,
      Nat.sub_zero]
  rw [hshown]
  refine .intro (by rw [split, List.nil_append]) (fun c hc => (nomatch hc)) unbroken ?_
    (Nat.zero_le _) ?_
  · cases count with
    | zero => exact fun c hc => (nomatch hc)
    | succ count =>
      rintro c ⟨⟩
      exact hbreak
  · rw [List.length_nil, Nat.zero_add]
    rcases place with hend | ⟨c, hc, visible⟩
    · cases count with
      | zero => exact Or.inr ⟨hend, rfl⟩
      | succ count =>
        rw [split, List.length_append, List.replicate_succ, List.flatten_cons, List.length_append,
          length_caretBreak] at hend
        omega
    · rw [split] at hc
      exact Or.inl (lt_length_of_visible hc visible)

/-! ### Carets of errors -/

/-- An error with a position comes up while the source is read. -/
lemma failsWith_of_evaluate {source : String} {e : Error} {position : Int}
    (h : evaluate source = .error e) (hposition : e.position = some position) :
    FailsWith (.ofChars source.toList) e := by
  unfold evaluate evaluateChars at h
  cases hexpr : Expr.ofChars? source.toList with
  | error e' =>
    rw [hexpr] at h
    cases h
    exact failsWith_of_ofStream? hexpr
  | ok expr =>
    simp only [hexpr] at h
    cases hrun : expr.run with
    | error fault =>
      simp only [hrun, Except.error.injEq] at h
      subst h
      cases fault <;> cases hposition
    | ok x =>
      simp only [hrun] at h
      rw [finite?_eq_error h] at hposition
      cases hposition

/-- The position of an error is the end of the source or that of a character other than spacing. -/
lemma Reported.place {source : String} {e : Error} {position : Int} (h : Reported source e)
    (hposition : e.position = some position) :
    ∃ p : Nat, position = p ∧
      (p = source.toList.length ∨ ∃ c, source.toList[p]? = some c ∧ isSpacing c = false) := by
  cases h with
  | @invalidCharacter before after c split offends =>
    refine ⟨before.length, (Option.some.inj hposition).symm, Or.inr ⟨c, ?_, ?_⟩⟩
    · rw [split]
      simp
    · rcases offends with ⟨rfl, -⟩ | ⟨hspacing, -⟩
      · rfl
      · exact hspacing
  | @unmatchedParenthesis p c place parenthesis =>
    refine ⟨p, (Option.some.inj hposition).symm, Or.inr ⟨c, place, ?_⟩⟩
    rcases parenthesis with rfl | rfl <;> rfl
  | @trailingInput p c place operand =>
    refine ⟨p, (Option.some.inj hposition).symm, Or.inr ⟨c, place, ?_⟩⟩
    rcases operand with hnumeric | rfl
    · exact isSpacing_eq_false (Or.inl hnumeric)
    · rfl
  | missingOperand => exact ⟨source.length, (Option.some.inj hposition).symm, Or.inl rfl⟩
  | @unexpectedToken p c place token sign =>
    refine ⟨p, (Option.some.inj hposition).symm, Or.inr ⟨c, place, ?_⟩⟩
    exact isSpacing_eq_false (by simpa [beginsToken] using token)
  | emptyExpression => cases hposition
  | divisionByZero => cases hposition
  | nonFiniteResult => cases hposition

/-- The caret of an error that has a position is the only thing that is shown behind the source, in
the column of the position. It stands under the position just when the source has no line break, or
none but those of lines that show the very same caret. -/
theorem caretUnder_iff (isBreak : Char → Bool) (hbreak : isBreak '\n' = true) {source : String}
    {e : Error} {position : Int} (h : evaluate source = .error e)
    (hposition : e.position = some position) :
    ∃ p : Nat, position = p ∧ (e.caretLine source).toList = source.toList ++ caretBreak p ∧
      (CaretUnder isBreak source.toList p (e.caretLine source).toList ↔
        ∃ line count, (∀ c ∈ line, isBreak c = false) ∧
          source.toList = line ++ (List.replicate count (caretBreak p)).flatten) := by
  obtain ⟨p, rfl, place⟩ := (failsWith_of_evaluate h hposition).reported.place hposition
  have hshown := toList_caretLine source hposition
  refine ⟨p, rfl, hshown, ?_⟩
  rw [hshown]
  constructor
  · exact exists_of_caretUnder
  · rintro ⟨line, count, unbroken, split⟩
    exact caretUnder_of_eq hbreak unbroken split place

/-- A source of one line: the caret stands under the second operator. -/
theorem caretUnder_iff_one_line :
    let e := Error.placed .parsing .unexpectedToken 4
    let isBreak := fun c : Char => c = '\n' || c = '\r'
    isBreak '\n' = true ∧ evaluate "7 %\t*" = .error e ∧ e.position = some 4 ∧
      CaretUnder isBreak "7 %\t*".toList 4 (e.caretLine "7 %\t*").toList := by
  have hrefused : evaluate "7 %\t*" = .error (.placed .parsing .unexpectedToken 4) := by
    decide +kernel
  refine ⟨rfl, hrefused, rfl, ?_⟩
  obtain ⟨p, hp, -, hiff⟩ :=
    caretUnder_iff (fun c => c = '\n' || c = '\r') rfl hrefused rfl
  obtain rfl : p = 4 := by omega
  exact hiff.mpr ⟨"7 %\t*".toList, 0, by simp, rfl⟩

/-- The caret of an error on a second line stands as far to the right as the error is from the
beginning of the source, and not under the character. -/
theorem caret_beside_second_line :
    let e := Error.placed .lexing .invalidCharacter 3
    let isBreak := fun c : Char => decide (c = '\n')
    evaluate "1+\na" = .error e ∧ e.caretLine "1+\na" = "1+\na\n   ^" ∧
      ¬CaretUnder isBreak "1+\na".toList 3 "1+\na\n   ^".toList ∧
      CaretUnder isBreak "1+\na".toList 3 "1+\na\n^".toList := by
  have hrefused : evaluate "1+\na" = .error (.placed .lexing .invalidCharacter 3) := by
    decide +kernel
  refine ⟨hrefused, by decide +kernel, ?_, ?_⟩
  · intro hunder
    obtain ⟨line, count, unbroken, split⟩ := exists_of_caretUnder hunder
    cases count with
    | zero =>
      rw [List.replicate_zero, List.flatten_nil, List.append_nil] at split
      exact absurd (unbroken '\n' (split ▸ by decide)) (by decide)
    | succ count =>
      have hcaret : '^' ∈ "1+\na".toList := by
        rw [split, List.replicate_succ, List.flatten_cons]
        simp [caretBreak]
      exact absurd hcaret (by decide)
  · exact @CaretUnder.intro _ _ 3 ['1', '+', '\n'] ['a'] [] rfl (by simp) (by simp) (by simp)
      (by decide) (Or.inl (by decide))

end Calculator
