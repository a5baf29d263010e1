import Calculator.Proofs.History.Refusals
import Calculator.Proofs.Session.Journal

/-!
# Operations that are refused

An operation is refused because a name is unknown, and then nothing has changed; or because the
history refuses its calculation. The value is shown before it is recorded, and then it stays where
it is shown: on the display, for a function or a conversion in the equation as well, and after a
conversion the next text begins a new equation (`Session.shown`). The rest of the session is as it
was, and so is every file (`Session.next_of_refused`).
-/

namespace Calculator

namespace Session

/-! ### Operations that are refused -/

/-- A session when the value of an operation's calculation is shown, and not yet recorded. -/
def shown (s : Session) (x : Double) : Operation → Session
  | .submit => { s with display := x.display }
  | .scientific _ => { s with display := x.display, equation := x.display }
  | .convert .. => { s with display := x.display, equation := x.display, isNew := true }
  | .press _ | .clear | .memoryAdd | .memorySubtract | .memoryRecall | .memoryClear => s

/-- Only a history that there is refuses a calculation, and it changes as a store that refuses. -/
lemma Keeps.refused {now : Moment} {equation result : String} {kind : RecordKind}
    {history history' : Option Store} {failure : StoreFailure}
    (h : Keeps now equation result kind history history' (some failure)) :
    ∃ store next, history = some store ∧ history' = some next ∧ store.Refused next := by
  cases h with
  | lost refused => exact ⟨_, _, rfl, rfl, Store.refused_record refused⟩

/-- What is left of an operation that is refused: everything is as it was, because a name is
unknown; or the history refuses the value of a calculation, which is shown, and no file has
changed. -/
inductive Remains (s : Session) (op : Operation) : Refusal → Session → Prop
  | unknown {refusal : Refusal} (apart : ∀ failure, refusal ≠ .store failure) :
      Remains s op refusal s
  | unrecorded {c : Calculation} {failure : StoreFailure} {store next : Store}
      (calculation : s.calculation? op = some c) (history : s.history = some store)
      (refused : store.Refused next) :
      Remains s op (.store failure) { s.shown c.value op with history := some next }

/-- An effect with a refusal leaves one of these. -/
lemma Effect.remains {s s' : Session} {now : Moment} {op : Operation} {refusal : Refusal}
    (h : Effect s now op s' (.error refusal)) : s.Remains op refusal s' := by
  cases h with
  | noFunction unknown => exact .unknown nofun
  | noCategory unknown => exact .unknown nofun
  | noUnit known unknown => exact .unknown nofun
  | unsubmitted value keeps =>
    obtain ⟨store, next, hhistory, rfl, hrefused⟩ := keeps.refused
    exact .unrecorded (calculation?_submit value) hhistory hrefused
  | unapplied known value keeps =>
    obtain ⟨store, next, hhistory, rfl, hrefused⟩ := keeps.refused
    exact .unrecorded (calculation?_scientific known value) hhistory hrefused
  | unconverted known value keeps =>
    obtain ⟨store, next, hhistory, rfl, hrefused⟩ := keeps.refused
    exact .unrecorded (calculation?_convert known value) hhistory hrefused

/-- Everything that a refused operation leaves is as it was, apart from where a value is shown, and
from a folder that has been made. -/
lemma Remains.kept {s s' : Session} {op : Operation} {refusal : Refusal}
    (h : s.Remains op refusal s') :
    s'.preview = s.preview ∧ s'.memory = s.memory ∧
      s'.history.map (·.folder.get?) = s.history.map (·.folder.get?) := by
  cases h with
  | unknown apart => exact ⟨rfl, rfl, rfl⟩
  | unrecorded calculation history refused =>
    refine ⟨?_, ?_, ?_⟩
    · cases op <;> rfl
    · cases op <;> rfl
    · rw [history]
      exact congrArg some (funext refused.get?)

/-- An operation that is refused because a name is unknown leaves the session as it was. If the
history refuses a calculation, its value stays where it is shown, while the preview, the memory and
every file are as they were. -/
theorem next_of_refused {s : Session} {call : Call} {refusal : Refusal}
    (refused : s.answer call = .error refusal) :
    s.Remains call.operation refusal (s.next call) ∧
      (s.next call).preview = s.preview ∧ (s.next call).memory = s.memory ∧
      (s.next call).history.map (·.folder.get?) = s.history.map (·.folder.get?) := by
  have heffect := s.effect_next call
  rw [refused] at heffect
  exact ⟨heffect.remains, heffect.remains.kept⟩

/-- An equation whose value the history refuses is refused, and the value is shown. -/
lemma step_submit_of_refused {s : Session} {x : Double} {store next : Store} {now : Moment}
    {failure : StoreFailure} (value : evaluate s.equation = .ok x)
    (history : s.history = some store)
    (refused : store.record now s.equation x.display RecordKind.standard.name =
      (next, .error failure)) :
    s.step now .submit =
      ({ s with display := x.display, history := some next }, .error (.store failure)) := by
  simp only [step, submit, value, record, history, refused]

/-- The value of a sum. -/
lemma exists_value_sum : ∃ x : Double, evaluate "1+1" = .ok x ∧ x.display = "2" := by
  have hvalue : (evaluate "1+1").toOption.map (·.display) = some "2" := by decide +kernel
  cases h : evaluate "1+1" with
  | error e =>
    rw [h] at hvalue
    cases hvalue
  | ok x =>
    rw [h] at hvalue
    exact ⟨x, rfl, Option.some.inj hvalue⟩

/-- A session in which a sum is typed. -/
def sampleTyped (store : Store) : Session := (start (some store)).press "1+1"

/-- The sum is submitted. -/
def sampleSubmit : Call := ⟨Store.sampleMoment, .submit⟩

/-- Where the history refuses it, the sum is refused with its value on the display. -/
lemma submit_sample_of_refused {store next : Store} {failure : StoreFailure}
    (refused : ∀ result, store.record Store.sampleMoment "1+1" result RecordKind.standard.name =
      (next, .error failure)) :
    (sampleTyped store).answer sampleSubmit = .error (.store failure) ∧
      (sampleTyped store).next sampleSubmit =
        { sampleTyped store with display := "2", history := some next } := by
  obtain ⟨x, hvalue, hshown⟩ := exists_value_sum
  have hstep := step_submit_of_refused (s := sampleTyped store) hvalue rfl (refused x.display)
  rw [hshown] at hstep
  exact ⟨congrArg Prod.snd hstep, congrArg Prod.fst hstep⟩

/-- A store in whose folder another folder stands in the place of the history. -/
def sampleBlocked : Store := ⟨.made [("tester_history.json", .folder)], "tester"⟩

/-- Where a folder stands in the place of the history the sum is refused, and what is left of the
session has its value on the display. -/
theorem next_of_refused_sample :
    (sampleTyped sampleBlocked).answer sampleSubmit = .error (.store .folderInPlace) ∧
      (sampleTyped sampleBlocked).Remains .submit (.store .folderInPlace)
        ((sampleTyped sampleBlocked).next sampleSubmit) ∧
      ((sampleTyped sampleBlocked).next sampleSubmit).display = "2" := by
  have hrecord : ∀ result, sampleBlocked.record Store.sampleMoment "1+1" result
      RecordKind.standard.name = (sampleBlocked, .error .folderInPlace) := fun result =>
    Store.record_of_folder (by decide +kernel) (by decide +kernel) _ _ _ _
  obtain ⟨hanswer, hnext⟩ := submit_sample_of_refused hrecord
  refine ⟨hanswer, (next_of_refused hanswer).1, ?_⟩
  rw [hnext]

/-- A store in a missing folder, of a user whose name is too long. -/
def sampleLong : Store := ⟨.missing Store.sampleSpare, Store.longUser⟩

/-- The user name is looked up before the folder is made, and then it is too long. -/
lemma submit_sampleLong :
    (sampleTyped sampleLong).answer sampleSubmit = .error (.store .nameTooLong) ∧
      (sampleTyped sampleLong).next sampleSubmit =
        { sampleTyped sampleLong with
          display := "2", history := some ⟨.made [], Store.longUser⟩ } :=
  submit_sample_of_refused fun _ =>
    Store.record_missing_of_long_name Store.isFileName_longUser Store.isLookedUp_longUser ..

/-- For a user name that is too long the sum is refused, though its value is shown, and the entries
are listed no longer. -/
theorem changed_though_refused :
    (sampleTyped sampleLong).answer sampleSubmit = .error (.store .nameTooLong) ∧
      ((sampleTyped sampleLong).next sampleSubmit).display ≠ (sampleTyped sampleLong).display ∧
      ((sampleTyped sampleLong).next sampleSubmit).history.map Store.load ≠
        (sampleTyped sampleLong).history.map Store.load := by
  obtain ⟨hanswer, hnext⟩ := submit_sampleLong
  refine ⟨hanswer, ?_, ?_⟩
  · have htyped : (sampleTyped sampleLong).display = "1+1" := rfl
    rw [hnext, htyped]
    decide
  · have htyped : (sampleTyped sampleLong).history = some sampleLong := rfl
    have hload : sampleLong.load = .ok [] := Store.load_missing Store.isLookedUp_longUser
    rw [hnext, htyped, Option.map_some, Option.map_some, hload,
      Store.load_of_long_name [] Store.isFileName_longUser]
    exact nofun

end Session

end Calculator
