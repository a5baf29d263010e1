import Calculator.Command
import Calculator.Proofs.Console
import Calculator.Proofs.Expression.Decomposition
import Calculator.Proofs.Expression.Derivation
import Calculator.Proofs.History.Timestamps
import Calculator.Proofs.Session.Journal

/-!
# Listing what is recorded

The row of a recorded calculation is shown on every console (`Session.isLegible_of_mem_journal`): an
expression with a value is made of digits, signs and blanks, the labels of functions and conversions
of names and numbers, and the category is marked with the style of its kind. So the table of a
history can be refused for its title alone, in which the user is named (`Setting.say_listEntries`).
-/

namespace Calculator

/-! ### Rows of entries -/

/-- Whether the row of an entry is shown on every console. -/
def Entry.IsLegible (e : Entry) : Prop := ∀ cell ∈ e.row, Legible cell

/-- A calculation is legible when it is recorded, if what was calculated has no marks. -/
lemma Calculation.isLegible_entry {c : Calculation} (h : IsUnmarked c.equation) (now : Moment) :
    (c.entry now).IsLegible := by
  have hstamp : Legible (listedTimestamp (CodeUnits.ofString now.recorded)) := by
    rw [now.listedTimestamp_recorded]
    refine (IsUnmarked.ofList ?_).legible
    simp [Moment.listedChars, Moment.two, bracket_notMem_digits, bracket_notMem_paddedDigits]
  have hcategory : Legible (CodeUnits.ofString
      (openingMark (categoryStyle (CodeUnits.ofString c.kind.name))) ++
        CodeUnits.ofString c.kind.name ++ CodeUnits.ofString
          (closingMark (categoryStyle (CodeUnits.ofString c.kind.name)))) := by
    simp only [← CodeUnits.ofString_append]
    cases c.kind <;> exact IsUnmarked.legible_styled (by decide) (by decide)
  have hresult : Legible (CodeUnits.ofString c.value.display) := (isUnmarked_display _).legible
  intro cell hcell
  simp only [Entry.row, Calculation.entry, Entry.ofTexts, List.mem_cons, List.not_mem_nil,
    or_false] at hcell
  rcases hcell with rfl | rfl | rfl | rfl
  · exact hstamp
  · exact hcategory
  · exact h.legible
  · exact hresult

/-! ### What is calculated -/

/-- An expression with a value has no marks. -/
lemma isUnmarked_of_evaluate {source : String} {x : Double} (h : evaluate source = .ok x) :
    IsUnmarked source := by
  intro hbracket
  unfold evaluate evaluateChars at h
  cases hexpr : Expr.ofChars? source.toList with
  | error e =>
    rw [hexpr] at h
    cases h
  | ok expr =>
    obtain ⟨⟨length, hending⟩, -⟩ := Grammar.exists_derivation_of_ofStream? hexpr
    obtain ⟨position, hposition⟩ := List.mem_iff_getElem?.mp hbracket
    exact TokenStream.not_offendsAt_of_complete hending position
      ⟨'[', hposition, Or.inl (by decide)⟩

/-- The name of a unit has no marks. -/
lemma isUnmarked_of_unit? {category : Category} {name : String} {unit : MeasureUnit}
    (h : category.unit? name = some unit) : IsUnmarked name := by
  have hname : unit.name = name := by simpa using List.find?_some h
  have hall : ∀ c : Category, ∀ unit ∈ c.units, IsUnmarked unit.name := by
    intro c
    cases c <;> simp [Category.units, Category.linear, IsUnmarked]
  exact hname ▸ hall category unit (List.mem_of_find?_eq_some h)

namespace Calculation

/-- What a calculation is recorded as has no marks: an expression. -/
lemma isUnmarked_ofExpression? {expression : String} {c : Calculation}
    (h : ofExpression? expression = some c) : IsUnmarked c.equation := by
  unfold ofExpression? at h
  cases hvalue : evaluate expression with
  | error e =>
    rw [hvalue] at h
    cases h
  | ok x =>
    rw [hvalue] at h
    cases h
    exact isUnmarked_of_evaluate hvalue

/-- What a calculation is recorded as has no marks: a function of a number. -/
lemma isUnmarked_ofFunction? {f : ScientificFunction} {x : Double} {c : Calculation}
    (h : ofFunction? f x = some c) : IsUnmarked c.equation := by
  unfold ofFunction? at h
  cases hvalue : f.apply x with
  | error e =>
    rw [hvalue] at h
    cases h
  | ok y =>
    rw [hvalue] at h
    cases h
    have hname : IsUnmarked (f.name ++ "(") := by cases f <;> decide
    have hclosing : IsUnmarked ")" := by decide
    exact (hname.append (isUnmarked_display x)).append hclosing

/-- What a calculation is recorded as has no marks: a conversion between two units. -/
lemma isUnmarked_ofConversion? {x : Double} {category : Category} {source target : String}
    {c : Calculation} (h : ofConversion? x category source target = some c) :
    IsUnmarked c.equation := by
  unfold ofConversion? convert at h
  cases hsource : category.unit? source with
  | none =>
    rw [hsource] at h
    cases h
  | some unit =>
    cases htarget : category.unit? target with
    | none =>
      rw [hsource, htarget] at h
      cases h
    | some unit' =>
      rw [hsource, htarget] at h
      cases h
      have hspace : IsUnmarked " " := by decide
      have hto : IsUnmarked " to " := by decide
      exact ((((isUnmarked_display x).append hspace).append (isUnmarked_of_unit? hsource)).append
        hto).append (isUnmarked_of_unit? htarget)

end Calculation

/-- What a session calculates is recorded without marks. -/
lemma Session.isUnmarked_calculation? {s : Session} {op : Session.Operation} {c : Calculation}
    (h : s.calculation? op = some c) : IsUnmarked c.equation := by
  cases op with
  | submit => exact Calculation.isUnmarked_ofExpression? h
  | scientific name =>
    obtain ⟨f, -, hf⟩ := Option.bind_eq_some_iff.mp h
    exact Calculation.isUnmarked_ofFunction? hf
  | convert x category source target =>
    obtain ⟨category, -, hcategory⟩ := Option.bind_eq_some_iff.mp h
    exact Calculation.isUnmarked_ofConversion? hcategory
  | press | clear | memoryAdd | memorySubtract | memoryRecall | memoryClear => cases h

/-- Everything that a session records is shown on every console. -/
theorem Session.isLegible_of_mem_journal {s : Session} {calls : List Session.Call} {e : Entry}
    (h : e ∈ s.journal calls) : e.IsLegible := by
  induction calls generalizing s with
  | nil => cases h
  | cons call calls ih =>
    rcases List.mem_append.mp h with hentry | hrest
    · obtain ⟨c, hc, rfl⟩ := Option.map_eq_some_iff.mp (Option.mem_toList.mp hentry)
      exact Calculation.isLegible_entry (Session.isUnmarked_calculation? hc) call.now
    · exact ih hrest

/-! ### Tables -/

/-- The texts of the columns of a table are their heads and its cells. -/
lemma Table.mem_columnTexts {table : Table} {text : CodeUnits} (h : text ∈ table.columnTexts) :
    (∃ head ∈ table.columns, text = .ofString head) ∨ ∃ row ∈ table.rows, text ∈ row := by
  obtain ⟨column, hmem, htext⟩ := List.mem_flatten.mp h
  obtain ⟨i, hi, rfl⟩ := List.mem_mapIdx.mp hmem
  rcases List.mem_cons.mp htext with hhead | hcell
  · exact Or.inl ⟨_, List.getElem_mem hi, hhead⟩
  · obtain ⟨row, hrow, hget⟩ := List.mem_filterMap.mp hcell
    exact Or.inr ⟨row, hrow, List.mem_of_getElem? hget⟩

/-- A table of legible entries is refused for its title alone. -/
lemma Console.refusalOf?_entryTable (console : Console) (title : String) {entries : List Entry}
    (h : ∀ e ∈ entries, e.IsLegible) :
    console.refusalOf? (.table (entryTable title entries)) =
      console.refusal? (.ofString title) := by
  have hcolumns : (entryTable title entries).columnTexts.findSome? console.refusal? = none := by
    refine List.findSome?_eq_none_iff.mpr fun text htext => console.legible ?_
    rcases Table.mem_columnTexts htext with ⟨head, hhead, rfl⟩ | ⟨row, hrow, hcell⟩
    · have hheads : ∀ head ∈ ["When", "Category", "Equation", "Result"], IsUnmarked head := by
        decide
      exact (hheads head hhead).legible
    · obtain ⟨e, he, rfl⟩ := List.mem_map.mp hrow
      exact h e he text hcell
  change ((entryTable title entries).columnTexts ++ [_]).findSome? console.refusal? = _
  rw [List.findSome?_append, hcolumns, Option.none_or, List.findSome?_singleton]
  rfl

/-- Of legible entries the table is shown, unless the console refuses its title, or that there are
none. -/
theorem Setting.say_listEntries (setting : Setting) (title : String) {entries : List Entry}
    (h : ∀ e ∈ entries, e.IsLegible) :
    setting.say (listEntries title entries) .success =
      if entries = [] then .success (.shown [noneRecorded])
      else match setting.console.refusal? (.ofString title) with
        | none =>
          .success (.shown [.line "", .table (entryTable title entries), .line ""])
        | some error => ⟨.shown [.line ""], .interrupted (.marks error)⟩ := by
  have hempty : setting.console.refusalOf? (.line "") = none :=
    setting.console.refusalOf?_of_legible
      (Console.isLegible_line (by decide : IsUnmarked "").legible)
  have hnone : setting.console.refusalOf? noneRecorded = none :=
    setting.console.refusalOf?_of_legible
      (Console.isLegible_line (IsUnmarked.legible_styled (by decide) (by decide)))
  unfold listEntries
  split
  · simp only [say, Console.reply, Console.print, hnone]
    rfl
  · simp only [say, Console.reply, Console.print, hempty,
      setting.console.refusalOf?_entryTable title h]
    cases setting.console.refusal? (.ofString title) <;> rfl

/-- A line is shown, unless the console refuses it. -/
lemma Setting.say_line (setting : Setting) (text : String) (exit : Exit) :
    setting.say [.line text] exit =
      match setting.console.refusal? (.ofString text) with
      | none => ⟨.shown [.line text], exit⟩
      | some error => .interrupted (.marks error) := by
  have hline : setting.console.refusalOf? (.line text) =
      setting.console.refusal? (.ofString text) := List.findSome?_singleton
  simp only [say, Console.reply, Console.print, hline]
  cases setting.console.refusal? (.ofString text) <;> rfl

end Calculator
