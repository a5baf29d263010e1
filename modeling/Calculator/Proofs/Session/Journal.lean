import Calculator.Proofs.History.Changes
import Calculator.Proofs.Session.Effects

/-!
# What a session records

A session carries out a calculation when an equation is submitted, a function is applied or a
quantity is converted, and there is a value (`Session.calculation?`). The journal of a run has one
entry for each of its calculations, in order, and `Session.history_after` says that it is what the
run appends to the history, and that the calculations are those whose values the calls report.
Nothing else is recorded. The steps of a run are told apart by `Session.tells_next`.

A history that holds entries never refuses a calculation (`Session.accepts_of_holds`).
-/

namespace Calculator

/-! ### Calculations -/

/-- A calculation with a value: what was calculated, the value, and the kind of calculation. -/
structure Calculation where
  equation : String
  value : Double
  kind : RecordKind

namespace Calculation

/-- The calculation of an expression, if it has a value. -/
def ofExpression? (expression : String) : Option Calculation :=
  (evaluate expression).toOption.map fun x => ⟨expression, x, .standard⟩

/-- The application of a function to a number, if it has a value there. -/
def ofFunction? (f : ScientificFunction) (x : Double) : Option Calculation :=
  (f.apply x).toOption.map fun y => ⟨f.name ++ "(" ++ x.display ++ ")", y, .scientific⟩

/-- The conversion of a quantity, if the units are known. -/
def ofConversion? (x : Double) (c : Category) (source target : String) : Option Calculation :=
  (convert x c source target).toOption.map fun y =>
    ⟨x.display ++ " " ++ source ++ " to " ++ target, y, .conversion⟩

/-- The entry that tells of a calculation. -/
def entry (c : Calculation) (now : Moment) : Entry :=
  .ofTexts c.equation c.value.display c.kind.name now.recorded

end Calculation

namespace Session

/-- The calculation that an operation carries out, if it has a value. -/
def calculation? (s : Session) : Operation → Option Calculation
  | .submit => Calculation.ofExpression? s.equation
  | .scientific name =>
    (ScientificFunction.ofName? name).bind fun f => Calculation.ofFunction? f s.displayValue
  | .convert x category source target =>
    (Category.ofName? category).bind fun c => Calculation.ofConversion? x c source target
  | .press _ | .clear | .memoryAdd | .memorySubtract | .memoryRecall | .memoryClear => none

/-- The value that an answer reports. -/
def reported? : Except Refusal Outcome → Option Double
  | .ok (.result (.ok x)) | .ok (.converted x) => some x
  | .ok .done | .ok (.result (.error _)) | .error _ => none

/-- The entry of the calculation that a call carries out. -/
def entries (s : Session) (call : Call) : List Entry :=
  ((s.calculation? call.operation).map (·.entry call.now)).toList

/-- The entries of the calculations that calls carry out one after the other. -/
def journal (s : Session) : List Call → List Entry
  | [] => []
  | call :: calls => s.entries call ++ (s.next call).journal calls

/-- No calculation is refused by the history while calls are made one after the other. -/
def Accepts (s : Session) : List Call → Prop
  | [] => True
  | call :: calls =>
    (∀ failure, s.answer call ≠ .error (.store failure)) ∧ (s.next call).Accepts calls

/-! ### One call -/

/-- What an operation has to do with the history: it carries out no calculation and leaves the
history as it is; or it carries out one, which is recorded and whose value is reported; or the
history refuses the calculation. -/
inductive Tells (s : Session) (now : Moment) (op : Operation) (s' : Session)
    (answer : Except Refusal Outcome) : Prop
  | nothing (calculation : s.calculation? op = none) (history : s'.history = s.history)
      (reported : reported? answer = none) (accepted : ∀ failure, answer ≠ .error (.store failure))
  | recorded {c : Calculation} (calculation : s.calculation? op = some c)
      (keeps : Keeps now c.equation c.value.display c.kind s.history s'.history none)
      (reported : reported? answer = some c.value)
  | refused {c : Calculation} {failure : StoreFailure} (calculation : s.calculation? op = some c)
      (keeps : Keeps now c.equation c.value.display c.kind s.history s'.history (some failure))
      (refusal : answer = .error (.store failure))

/-- An equation with a value is a calculation. -/
lemma calculation?_submit {s : Session} {x : Double} (value : evaluate s.equation = .ok x) :
    s.calculation? .submit = some ⟨s.equation, x, .standard⟩ := by
  simp only [calculation?, Calculation.ofExpression?, value]
  rfl

/-- A known function that has a value at the number on the display is a calculation. -/
lemma calculation?_scientific {s : Session} {name : String} {f : ScientificFunction} {y : Double}
    (known : ScientificFunction.ofName? name = some f) (value : f.apply s.displayValue = .ok y) :
    s.calculation? (.scientific name) = some ⟨functionText f s.displayValue, y, .scientific⟩ := by
  simp only [calculation?, known, Option.bind_some, Calculation.ofFunction?, value]
  rfl

/-- A conversion between known units is a calculation. -/
lemma calculation?_convert {s : Session} {x y : Double} {category source target : String}
    {c : Category} (known : Category.ofName? category = some c)
    (value : Calculator.convert x c source target = .ok y) :
    s.calculation? (.convert x category source target) =
      some ⟨conversionText x source target, y, .conversion⟩ := by
  simp only [calculation?, known, Option.bind_some, Calculation.ofConversion?, value]
  rfl

/-- Every effect is one of these. -/
lemma Effect.tells {s s' : Session} {now : Moment} {op : Operation}
    {answer : Except Refusal Outcome} (h : Effect s now op s' answer) :
    Tells s now op s' answer := by
  cases h with
  | begun | continued | cleared | added | subtracted | recalled | forgotten =>
    exact .nothing rfl rfl rfl nofun
  | failed value =>
    refine .nothing ?_ rfl rfl nofun
    simp only [calculation?, Calculation.ofExpression?, value]
    rfl
  | submitted value keeps => exact .recorded (calculation?_submit value) keeps rfl
  | unsubmitted value keeps => exact .refused (calculation?_submit value) keeps rfl
  | noFunction unknown =>
    refine .nothing ?_ rfl rfl nofun
    simp only [calculation?, unknown, Option.bind_none]
  | outside known value =>
    refine .nothing ?_ rfl rfl nofun
    simp only [calculation?, known, Option.bind_some, Calculation.ofFunction?, value]
    rfl
  | applied known value keeps => exact .recorded (calculation?_scientific known value) keeps rfl
  | unapplied known value keeps => exact .refused (calculation?_scientific known value) keeps rfl
  | noCategory unknown =>
    refine .nothing ?_ rfl rfl nofun
    simp only [calculation?, unknown, Option.bind_none]
  | noUnit known unknown =>
    refine .nothing ?_ rfl rfl nofun
    simp only [calculation?, known, Option.bind_some, Calculation.ofConversion?, unknown]
    rfl
  | converted known value keeps => exact .recorded (calculation?_convert known value) keeps rfl
  | unconverted known value keeps => exact .refused (calculation?_convert known value) keeps rfl

/-- Every call is one of these. -/
theorem tells_next (s : Session) (call : Call) :
    s.Tells call.now call.operation (s.next call) (s.answer call) :=
  (s.effect_next call).tells

/-- No entries are appended if there are none. -/
lemma load_append_nil (history : Option Store) :
    history.map Store.load = history.map fun store => store.load.map (· ++ []) := by
  refine congrArg (history.map ·) (funext fun store => ?_)
  cases store.load with
  | error failure => rfl
  | ok kept => simp [Except.map]

/-- Entries are appended one list after the other. -/
lemma load_append_append (history : Option Store) (es es' : List Entry) :
    (history.map fun store => store.load.map (· ++ es)).map (Except.map (· ++ es')) =
      history.map fun store => store.load.map (· ++ (es ++ es')) := by
  rw [Option.map_map]
  refine congrArg (history.map ·) (funext fun store => ?_)
  simp only [Function.comp_apply]
  cases store.load with
  | error failure => rfl
  | ok kept => simp [Except.map]

/-- A calculation that is recorded is appended to the entries of the history. -/
lemma Keeps.load {now : Moment} {c : Calculation} {history history' : Option Store}
    (h : Keeps now c.equation c.value.display c.kind history history' none) :
    history'.map Store.load = history.map fun store => store.load.map (· ++ [c.entry now]) := by
  cases h with
  | off => rw [Option.map_none, Option.map_none]
  | @kept store next entry recorded =>
    have happends := store.appends_record now c.equation c.value.display c.kind.name
    rw [recorded] at happends
    cases happends with
    | appended holds =>
      simp only [Option.map_some, (holds.put _).load, holds.load]
      rfl

/-- A call that is not refused appends its entries to those of the history, and reports the value of
its calculation. -/
lemma load_next {s : Session} {call : Call}
    (accepted : ∀ failure, s.answer call ≠ .error (.store failure)) :
    (s.next call).history.map Store.load =
        s.history.map (fun store => store.load.map (· ++ s.entries call)) ∧
      (s.calculation? call.operation).map (·.value) = reported? (s.answer call) := by
  cases s.tells_next call with
  | nothing calculation history reported _ =>
    rw [history, reported, entries, calculation]
    exact ⟨load_append_nil s.history, rfl⟩
  | recorded calculation keeps reported =>
    rw [reported, entries, calculation]
    exact ⟨keeps.load, rfl⟩
  | refused calculation keeps refusal => exact absurd refusal (accepted _)

/-! ### Histories that accept everything -/

/-- Calls in two parts are not refused if neither part is. -/
lemma accepts_append {s : Session} {calls calls' : List Call} :
    s.Accepts (calls ++ calls') ↔ s.Accepts calls ∧ (s.after calls).Accepts calls' := by
  induction calls generalizing s with
  | nil => simp only [List.nil_append, Accepts, after_nil, true_and]
  | cons call calls ih =>
    rw [List.cons_append, Accepts, Accepts, ih, and_assoc]
    rfl

/-- A call of a session without a history is not refused. -/
lemma next_of_off {s : Session} (off : s.history = none) (call : Call) :
    (∀ failure, s.answer call ≠ .error (.store failure)) ∧ (s.next call).history = none := by
  cases s.tells_next call with
  | nothing calculation history reported accepted => exact ⟨accepted, history.trans off⟩
  | recorded calculation keeps reported =>
    rw [off] at keeps
    generalize (s.next call).history = history at keeps ⊢
    cases keeps with
    | off =>
      refine ⟨fun failure hanswer => ?_, rfl⟩
      rw [hanswer] at reported
      cases reported
  | refused calculation keeps refusal =>
    rw [off] at keeps
    generalize (s.next call).history = history at keeps ⊢
    cases keeps

/-- Nothing is refused where nothing is recorded. -/
lemma accepts_of_off {s : Session} (off : s.history = none) (calls : List Call) :
    s.Accepts calls := by
  induction calls generalizing s with
  | nil => trivial
  | cons call calls ih => exact ⟨(next_of_off off call).1, ih (next_of_off off call).2⟩

/-- A call of a session whose history holds entries is not refused, and the history grows by the
entries of the call. -/
lemma next_of_holds {s : Session} {store : Store} {kept : List Entry}
    (history : s.history = some store) (holds : store.Holds kept) (call : Call) :
    (∀ failure, s.answer call ≠ .error (.store failure)) ∧
      ∃ next, (s.next call).history = some next ∧ store.Grows kept (s.entries call) next := by
  have hentry : ∀ c : Calculation, store.record call.now c.equation c.value.display c.kind.name =
      (_, .ok (c.entry call.now)) := fun c => holds.record call.now _ _ _
  cases s.tells_next call with
  | nothing calculation unchanged reported accepted =>
    refine ⟨accepted, store, unchanged.trans history, ?_⟩
    rw [entries, calculation]
    exact .same
  | @recorded c calculation keeps reported =>
    rw [history] at keeps
    generalize hnext : (s.next call).history = history' at keeps ⊢
    cases keeps with
    | kept recorded =>
      refine ⟨fun failure hanswer => ?_, _, rfl, ?_⟩
      · rw [hanswer] at reported
        cases reported
      · rw [hentry c] at recorded
        obtain ⟨rfl, -⟩ := Prod.mk.inj recorded
        rw [entries, calculation]
        exact .appended _
  | @refused c failure calculation keeps refusal =>
    rw [history] at keeps
    generalize (s.next call).history = history' at keeps ⊢
    cases keeps with
    | lost refused =>
      rw [hentry c] at refused
      cases refused

/-- A history that holds entries refuses nothing. -/
theorem accepts_of_holds {s : Session} {store : Store} {kept : List Entry}
    (history : s.history = some store) (holds : store.Holds kept) (calls : List Call) :
    s.Accepts calls := by
  induction calls generalizing s store kept with
  | nil => trivial
  | cons call calls ih =>
    obtain ⟨haccepted, next, hnext, hgrows⟩ := next_of_holds history holds call
    exact ⟨haccepted, ih hnext (hgrows.holds holds)⟩

/-! ### Sessions that do not record -/

/-- The session without its history. -/
def unrecorded (s : Session) : Session := { s with history := none }

/-- An effect that is no refusal is that of the session without a history, apart from the history.
-/
lemma Effect.unrecorded {s s' : Session} {now : Moment} {op : Operation}
    {answer : Except Refusal Outcome} (h : Effect s now op s' answer)
    (accepted : ∀ failure, answer ≠ .error (.store failure)) :
    s.unrecorded.step now op = (s'.unrecorded, answer) := by
  have hdisplay : s.unrecorded.displayValue = s.displayValue := rfl
  cases h with
  | begun new =>
    simp only [step, press, Session.unrecorded, new, if_true]
    rfl
  | continued typing =>
    simp only [step, press, Session.unrecorded, typing, Bool.false_eq_true, if_false]
    rfl
  | cleared | added | subtracted | recalled | forgotten => rfl
  | failed value =>
    simp only [step, submit, Session.unrecorded, value]
    rfl
  | submitted value keeps =>
    simp only [step, submit, Session.unrecorded, value]
    rfl
  | noFunction unknown => simp only [step, scientific, unknown]
  | outside known value =>
    simp only [step, scientific, known, applyFunction, hdisplay, value]
    rfl
  | applied known value keeps =>
    simp only [step, scientific, known, applyFunction, hdisplay, value]
    rfl
  | noCategory unknown => simp only [step, convert, unknown]
  | noUnit known unknown => simp only [step, convert, known, unknown]
  | converted known value keeps =>
    simp only [step, convert, known, value]
    rfl
  | unsubmitted | unapplied | unconverted => exact absurd rfl (accepted _)

/-- Unless it is refused, a call answers and changes the session as it does without a history. -/
lemma next_unrecorded {s : Session} {call : Call}
    (accepted : ∀ failure, s.answer call ≠ .error (.store failure)) :
    s.unrecorded.next call = (s.next call).unrecorded ∧
      s.unrecorded.answer call = s.answer call := by
  have hstep := (s.effect_next call).unrecorded accepted
  exact Prod.ext_iff.mp hstep

/-- The calculation that an operation carries out does not depend on the history. -/
lemma calculation?_unrecorded (s : Session) (op : Operation) :
    s.unrecorded.calculation? op = s.calculation? op := by
  cases op <;> rfl

/-- The journal of a run that is not refused does not depend on the history. -/
lemma journal_unrecorded {s : Session} {calls : List Call} (accepted : s.Accepts calls) :
    s.unrecorded.journal calls = s.journal calls := by
  induction calls generalizing s with
  | nil => rfl
  | cons call calls ih =>
    obtain ⟨hfirst, hrest⟩ := accepted
    simp only [journal, entries, calculation?_unrecorded, (next_unrecorded hfirst).1, ih hrest]

/-! ### Runs -/

/-- A run that is not refused appends its journal to the entries of the history, and the
calculations of the journal are those whose values the calls report: one for each equation that is
submitted to a value, for each function that is applied with a value, and for each quantity that is
converted. -/
theorem history_after {s : Session} {calls : List Call} (accepted : s.Accepts calls) :
    (s.after calls).history.map Store.load =
        s.history.map (fun store => store.load.map (· ++ s.journal calls)) ∧
      ∀ before call, before ++ [call] <+: calls →
        ((s.after before).calculation? call.operation).map (·.value) =
          reported? ((s.after before).answer call) := by
  induction calls generalizing s with
  | nil =>
    refine ⟨load_append_nil s.history, fun before call hprefix => ?_⟩
    exact absurd (List.prefix_nil.mp hprefix) (by simp)
  | cons first calls ih =>
    obtain ⟨hfirst, hrest⟩ := accepted
    obtain ⟨hload, hreported⟩ := load_next hfirst
    obtain ⟨hafter, hreports⟩ := ih hrest
    refine ⟨?_, fun before call hprefix => ?_⟩
    · calc (s.after (first :: calls)).history.map Store.load
          = (s.next first).history.map
              (fun store => store.load.map (· ++ (s.next first).journal calls)) := hafter
        _ = ((s.next first).history.map Store.load).map
              (Except.map (· ++ (s.next first).journal calls)) := by
            rw [Option.map_map]
            rfl
        _ = s.history.map (fun store => store.load.map (· ++ s.journal (first :: calls))) := by
            rw [hload, load_append_append]
            rfl
    · cases before with
      | nil =>
        obtain ⟨rfl, -⟩ := List.cons_prefix_cons.mp hprefix
        exact hreported
      | cons second before =>
        obtain ⟨rfl, htail⟩ := List.cons_prefix_cons.mp hprefix
        exact hreports before call htail

/-- A sum that is submitted, its root, a quotient without a value, and a conversion. -/
def sampleCalls : List Call :=
  [.press "2+2", .submit, .scientific "sqrt", .press "1/0", .submit,
    .convert 2 "length" "km" "m"].map (Call.mk Store.sampleMoment)

/-- In a folder that is missing at first the sum, the root and the conversion are recorded. -/
theorem history_after_sample :
    (start (some ⟨.missing Store.sampleSpare, "tester"⟩)).Accepts sampleCalls ∧
      ((start (some ⟨.missing Store.sampleSpare, "tester"⟩)).after sampleCalls).history.map
          Store.load =
        some (.ok ((start (some ⟨.missing Store.sampleSpare, "tester"⟩)).journal sampleCalls)) ∧
      ((start (some ⟨.missing Store.sampleSpare, "tester"⟩)).journal sampleCalls).length = 3 := by
  have hholds : Store.Holds ⟨.missing Store.sampleSpare, "tester"⟩ [] :=
    Store.holds_missing _ (by decide +kernel)
  have haccepts : (start (some ⟨.missing Store.sampleSpare, "tester"⟩)).Accepts sampleCalls :=
    accepts_of_holds rfl hholds sampleCalls
  refine ⟨haccepts, (history_after haccepts).1, ?_⟩
  rw [← journal_unrecorded haccepts]
  decide +kernel

end Session

end Calculator
