import Calculator.Session
import Mathlib.Tactic.Lemma

/-!
# Effects of operations

`Session.Effect` lists everything that an operation can do to a session, with the outcome, and
`Session.effect_step` says that nothing else happens. A calculation that is recorded changes the
history alone, also when the history refuses it (`Session.exists_keeps`).

A session is followed over a list of calls by `Session.after`.
-/

namespace Calculator

namespace Session

/-! ### Recording -/

/-- What becomes of a history, if there is one, when a calculation is recorded, and the failure if
it is refused. -/
inductive Keeps (now : Moment) (equation result : String) (kind : RecordKind) :
    Option Store → Option Store → Option StoreFailure → Prop
  | off : Keeps now equation result kind none none none
  | kept {store next : Store} {entry : Entry}
      (recorded : store.record now equation result kind.name = (next, .ok entry)) :
      Keeps now equation result kind (some store) (some next) none
  | lost {store next : Store} {failure : StoreFailure}
      (refused : store.record now equation result kind.name = (next, .error failure)) :
      Keeps now equation result kind (some store) (some next) (some failure)

/-- Recording changes the history alone. -/
lemma exists_keeps (s : Session) (now : Moment) (equation result : String) (kind : RecordKind) :
    ∃ history failure, Keeps now equation result kind s.history history failure ∧
      s.record now equation result kind =
        ({ s with history }, match failure with
          | none => .ok ()
          | some failure => .error (.store failure)) := by
  obtain ⟨display, equation', preview, isNew, memory, history⟩ := s
  unfold record
  cases history with
  | none => exact ⟨none, none, .off, rfl⟩
  | some store =>
    rcases hrecord : store.record now equation result kind.name with ⟨next, failure | entry⟩
    · exact ⟨some next, some failure, .lost hrecord, by simp only [hrecord]⟩
    · exact ⟨some next, none, .kept hrecord, by simp only [hrecord]⟩

/-! ### Operations -/

/-- What an operation does to a session, and its outcome. -/
inductive Effect (s : Session) (now : Moment) :
    Operation → Session → Except Refusal Outcome → Prop
  | begun {text : String} (new : s.isNew = true) :
      Effect s now (.press text)
        { s with display := text, equation := text, preview := previewOf text, isNew := false }
        (.ok .done)
  | continued {text : String} (typing : s.isNew = false) :
      Effect s now (.press text)
        { s with
          display := if s.display = "0" then text else s.display ++ text
          equation := s.equation ++ text
          preview := previewOf (s.equation ++ text)
          isNew := false }
        (.ok .done)
  | failed {e : Error} (value : evaluate s.equation = .error e) :
      Effect s now .submit { s with display := errorDisplay, preview := "", isNew := true }
        (.ok (.result (.error e)))
  | submitted {x : Double} {history : Option Store} (value : evaluate s.equation = .ok x)
      (keeps : Keeps now s.equation x.display .standard s.history history none) :
      Effect s now .submit { s with display := x.display, preview := "", isNew := true, history }
        (.ok (.result (.ok x)))
  | unsubmitted {x : Double} {history : Option Store} {failure : StoreFailure}
      (value : evaluate s.equation = .ok x)
      (keeps : Keeps now s.equation x.display .standard s.history history (some failure)) :
      Effect s now .submit { s with display := x.display, history } (.error (.store failure))
  | cleared : Effect s now .clear s.clear (.ok .done)
  | added : Effect s now .memoryAdd s.memoryAdd (.ok .done)
  | subtracted : Effect s now .memorySubtract s.memorySubtract (.ok .done)
  | recalled :
      Effect s now .memoryRecall
        { s with
          display := s.memory.value.display
          equation := s.memory.value.display
          preview := previewOf s.memory.value.display
          isNew := false }
        (.ok .done)
  | forgotten : Effect s now .memoryClear s.memoryClear (.ok .done)
  | noFunction {name : String} (unknown : ScientificFunction.ofName? name = none) :
      Effect s now (.scientific name) s (.error (.unknownFunction name))
  | outside {name : String} {f : ScientificFunction} {e : Error}
      (known : ScientificFunction.ofName? name = some f)
      (value : f.apply s.displayValue = .error e) :
      Effect s now (.scientific name)
        { s with display := errorDisplay, preview := "", isNew := true } (.ok (.result (.error e)))
  | applied {name : String} {f : ScientificFunction} {y : Double} {history : Option Store}
      (known : ScientificFunction.ofName? name = some f) (value : f.apply s.displayValue = .ok y)
      (keeps : Keeps now (functionText f s.displayValue) y.display .scientific s.history history
        none) :
      Effect s now (.scientific name)
        { s with
          display := y.display
          equation := y.display
          preview := ""
          isNew := true
          history }
        (.ok (.result (.ok y)))
  | unapplied {name : String} {f : ScientificFunction} {y : Double} {history : Option Store}
      {failure : StoreFailure}
      (known : ScientificFunction.ofName? name = some f) (value : f.apply s.displayValue = .ok y)
      (keeps : Keeps now (functionText f s.displayValue) y.display .scientific s.history history
        (some failure)) :
      Effect s now (.scientific name)
        { s with display := y.display, equation := y.display, history } (.error (.store failure))
  | noCategory {x : Double} {category source target : String}
      (unknown : Category.ofName? category = none) :
      Effect s now (.convert x category source target) s (.error (.unknownCategory category))
  | noUnit {x : Double} {category source target : String} {c : Category} {unit : UnknownUnit}
      (known : Category.ofName? category = some c)
      (unknown : Calculator.convert x c source target = .error unit) :
      Effect s now (.convert x category source target) s (.error (.unknownUnit unit))
  | converted {x y : Double} {category source target : String} {c : Category}
      {history : Option Store} (known : Category.ofName? category = some c)
      (value : Calculator.convert x c source target = .ok y)
      (keeps : Keeps now (conversionText x source target) y.display .conversion s.history history
        none) :
      Effect s now (.convert x category source target)
        { s with display := y.display, equation := y.display, isNew := true, history }
        (.ok (.converted y))
  | unconverted {x y : Double} {category source target : String} {c : Category}
      {history : Option Store} {failure : StoreFailure}
      (known : Category.ofName? category = some c)
      (value : Calculator.convert x c source target = .ok y)
      (keeps : Keeps now (conversionText x source target) y.display .conversion s.history history
        (some failure)) :
      Effect s now (.convert x category source target)
        { s with display := y.display, equation := y.display, isNew := true, history }
        (.error (.store failure))

/-- Typing begins an equation or goes on with one. -/
lemma effect_press (s : Session) (now : Moment) (text : String) :
    Effect s now (.press text) (s.press text) (.ok .done) := by
  unfold press
  cases hnew : s.isNew with
  | true => exact .begun hnew
  | false => exact .continued hnew

/-- A submitted equation has an error, or a value that is recorded or refused by the history. -/
lemma effect_submit (s : Session) (now : Moment) :
    Effect s now .submit (s.submit now).1 (s.submit now).2 := by
  unfold submit
  cases hvalue : evaluate s.equation with
  | error e => exact .failed hvalue
  | ok x =>
    obtain ⟨history, failure, hkeeps, hrecord⟩ :=
      exists_keeps { s with display := x.display } now s.equation x.display .standard
    simp only [hrecord]
    cases failure with
    | none => exact .submitted hvalue hkeeps
    | some failure => exact .unsubmitted hvalue hkeeps

/-- An equation without a value is submitted to an error. -/
lemma submit_of_error {s : Session} {e : Error} (h : evaluate s.equation = .error e)
    (now : Moment) :
    (s.submit now).1.display = errorDisplay ∧ (s.submit now).2 = .ok (.result (.error e)) := by
  have heffect := s.effect_submit now
  generalize (s.submit now).1 = s', (s.submit now).2 = answer at heffect ⊢
  cases heffect with
  | failed value =>
    cases h.symm.trans value
    exact ⟨rfl, rfl⟩
  | submitted value keeps => cases h.symm.trans value
  | unsubmitted value keeps => cases h.symm.trans value

/-- An equation with a value is submitted to the value, also if the history refuses it. -/
lemma submit_of_ok {s : Session} {x : Double} (h : evaluate s.equation = .ok x) (now : Moment) :
    (s.submit now).1.display = x.display ∧
      ((s.submit now).2 = .ok (.result (.ok x)) ∨
        ∃ failure, (s.submit now).2 = .error (.store failure)) := by
  have heffect := s.effect_submit now
  generalize (s.submit now).1 = s', (s.submit now).2 = answer at heffect ⊢
  cases heffect with
  | failed value => cases h.symm.trans value
  | submitted value keeps =>
    cases h.symm.trans value
    exact ⟨rfl, Or.inl rfl⟩
  | unsubmitted value keeps =>
    cases h.symm.trans value
    exact ⟨rfl, Or.inr ⟨_, rfl⟩⟩

/-- A function is unknown, or it has no value, or a value that is recorded or refused by the
history. -/
lemma effect_scientific (s : Session) (now : Moment) (name : String) :
    Effect s now (.scientific name) (s.scientific now name).1 (s.scientific now name).2 := by
  unfold scientific
  cases hname : ScientificFunction.ofName? name with
  | none => exact .noFunction hname
  | some f =>
    simp only [applyFunction]
    cases hvalue : f.apply s.displayValue with
    | error e => exact .outside hname hvalue
    | ok y =>
      obtain ⟨history, failure, hkeeps, hrecord⟩ :=
        exists_keeps { s with display := y.display, equation := y.display } now
          (functionText f s.displayValue) y.display .scientific
      simp only [hrecord]
      cases failure with
      | none => exact .applied hname hvalue hkeeps
      | some failure => exact .unapplied hname hvalue hkeeps

/-- A category or a unit is unknown, or a quantity is converted and recorded or refused by the
history. -/
lemma effect_convert (s : Session) (now : Moment) (x : Double) (category source target : String) :
    Effect s now (.convert x category source target) (s.convert now x category source target).1
      (s.convert now x category source target).2 := by
  unfold convert
  cases hcategory : Category.ofName? category with
  | none => exact .noCategory hcategory
  | some c =>
    simp only
    cases hvalue : Calculator.convert x c source target with
    | error unit => exact .noUnit hcategory hvalue
    | ok y =>
      obtain ⟨history, failure, hkeeps, hrecord⟩ :=
        exists_keeps { s with display := y.display, equation := y.display, isNew := true } now
          (conversionText x source target) y.display .conversion
      simp only [hrecord]
      cases failure with
      | none => exact .converted hcategory hvalue hkeeps
      | some failure => exact .unconverted hcategory hvalue hkeeps

/-- Every step is an effect. -/
theorem effect_step (s : Session) (now : Moment) (op : Operation) :
    Effect s now op (s.step now op).1 (s.step now op).2 := by
  cases op with
  | press text => exact effect_press s now text
  | submit => exact effect_submit s now
  | clear => exact .cleared
  | memoryAdd => exact .added
  | memorySubtract => exact .subtracted
  | memoryRecall => exact .recalled
  | memoryClear => exact .forgotten
  | scientific name => exact effect_scientific s now name
  | convert x category source target => exact effect_convert s now x category source target

/-! ### Runs -/

/-- An operation with the moment at which it is called. -/
structure Call where
  now : Moment
  operation : Operation

/-- The session after a call. -/
def next (s : Session) (call : Call) : Session := (s.step call.now call.operation).1

/-- The outcome of a call. -/
def answer (s : Session) (call : Call) : Except Refusal Outcome :=
  (s.step call.now call.operation).2

/-- The session after calls that are made one after the other. -/
def after (s : Session) (calls : List Call) : Session := calls.foldl next s

/-- No calls leave the session as it is. -/
@[simp] lemma after_nil (s : Session) : s.after [] = s := rfl

/-- A last call is made of the session that the calls before it leave. -/
@[simp] lemma after_concat (s : Session) (calls : List Call) (call : Call) :
    s.after (calls ++ [call]) = (s.after calls).next call := by
  rw [after, List.foldl_append]
  rfl

/-- Calls may be made in two parts. -/
lemma after_append (s : Session) (calls calls' : List Call) :
    s.after (calls ++ calls') = (s.after calls).after calls' := List.foldl_append

/-- What every call keeps holds after any calls. -/
lemma after_invariant {P : Session → Prop} (hnext : ∀ s call, P s → P (s.next call)) {s : Session}
    (h : P s) (calls : List Call) : P (s.after calls) := by
  induction calls generalizing s with
  | nil => exact h
  | cons call calls ih => exact ih (hnext s call h)

/-- Every call has an effect. -/
theorem effect_next (s : Session) (call : Call) :
    Effect s call.now call.operation (s.next call) (s.answer call) :=
  effect_step s call.now call.operation

end Session

end Calculator
