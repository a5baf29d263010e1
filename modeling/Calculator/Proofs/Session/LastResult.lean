import Calculator.Proofs.Decimal.ReadBack
import Calculator.Proofs.Session.Refusals

/-!
# The last result

What the memory and the functions are given is read from the display. At the beginning of an
equation that is the last result (`Session.lastResult`), or zero if there is none or it is not
finite: the display shows the result with enough digits to read an equal number back.

The memory is changed by three operations only, and from its last clearing on it is the sum of what
has been added and subtracted (`Session.postings`). `Session.last_result_is_used` puts the two
together.
-/

namespace Calculator

namespace Double

/-! ### Equal numbers -/

/-- A number that is equal to a finite number is finite. -/
lemma isFinite_of_equal {x y : Double} (h : y.equal x = true) (hx : x.isFinite = true) :
    y.isFinite = true := by
  cases x <;> cases y <;> first | rfl | cases h | cases hx

/-- A number equal to zero is one of the two zeros. -/
lemma eq_zero_of_equal {a : Double} (h : a.equal (.zero false) = true) :
    ∃ negative, a = .zero negative := by
  cases a with
  | nan => cases h
  | infinite negative => cases h
  | finite negative m =>
    have hsteps : m.steps = 0 := by
      simp only [zero, equal, decide_eq_true_eq] at h
      exact h.1
    exact ⟨negative, congrArg _ (Magnitude.ext hsteps)⟩

end Double

namespace Session

/-! ### Results -/

/-- The last result after an operation with its answer. A clear leaves none, nor does a calculation
without a value. A calculation that the history refuses counts, for its value is shown. -/
def resultAfter (s : Session) (last : Option Double) (op : Operation)
    (answer : Except Refusal Outcome) : Option Double :=
  match op, answer with
  | .clear, _ => none
  | _, .ok (.result value) => value.toOption
  | _, .ok (.converted x) => some x
  | op, .error (.store _) => (s.calculation? op).map (·.value)
  | _, _ => last

/-- The last result after calls that are made one after the other. -/
def lastResult (s : Session) (last : Option Double) : List Call → Option Double
  | [] => last
  | call :: calls =>
    (s.next call).lastResult (s.resultAfter last call.operation (s.answer call)) calls

/-- The number that is calculated with: the last result, or zero without a finite one. -/
def amount : Option Double → Double
  | some x => if x.isFinite then x else .zero false
  | none => .zero false

/-- What the display shows of the last result: its text, or a zero or an error if there is none. -/
def Displays (s : Session) : Option Double → Prop
  | some x => s.display = x.display
  | none => s.display = "0" ∨ s.display = errorDisplay

/-- The number on the display is the last result that is displayed. -/
lemma Displays.equal_amount {s : Session} {last : Option Double} (h : s.Displays last) :
    s.displayValue.equal (amount last) = true := by
  cases last with
  | none =>
    have hvalue : s.displayValue = .zero false := by
      rw [displayValue]
      rcases h with hzero | herror
      · rw [hzero]
        decide +kernel
      · rw [herror]
        decide +kernel
    rw [hvalue]
    rfl
  | some x =>
    have hdisplay : s.display = x.display := h
    rw [displayValue, hdisplay]
    cases hfinite : x.isFinite with
    | true =>
      obtain ⟨y, hread, hequal⟩ := Double.ofText?_display hfinite
      have hy : y.isFinite = true := Double.isFinite_of_equal hequal hfinite
      simp only [hread, hy, amount, hfinite, if_true]
      exact hequal
    | false =>
      cases x with
      | nan => decide +kernel
      | infinite negative => cases negative <;> decide +kernel
      | finite negative m => cases hfinite

/-! ### Runs -/

/-- A calculation that the history refuses leaves its value. -/
lemma resultAfter_of_refused {s : Session} {op : Operation} {c : Calculation}
    (h : s.calculation? op = some c) (last : Option Double) (failure : StoreFailure) :
    s.resultAfter last op (.error (.store failure)) = some c.value := by
  cases op with
  | clear => cases h
  | _ => simp only [resultAfter, h, Option.map_some]

/-- At the beginning of an equation the display shows the last result, if it did so before. -/
lemma Effect.displays {s s' : Session} {now : Moment} {op : Operation}
    {answer : Except Refusal Outcome} (h : Effect s now op s' answer) {last : Option Double}
    (displays : s.isNew = true → s.Displays last) (new : s'.isNew = true) :
    s'.Displays (s.resultAfter last op answer) := by
  cases h with
  | begun | continued | recalled => cases new
  | failed | outside => exact Or.inr rfl
  | cleared => exact Or.inl rfl
  | submitted | applied | converted => rfl
  | unsubmitted value keeps =>
    rw [resultAfter_of_refused (calculation?_submit value)]
    rfl
  | unapplied known value keeps =>
    rw [resultAfter_of_refused (calculation?_scientific known value)]
    rfl
  | unconverted known value keeps =>
    rw [resultAfter_of_refused (calculation?_convert known value)]
    rfl
  | added | subtracted | forgotten => exact displays new
  | noFunction | noCategory | noUnit => exact displays new

/-- At the beginning of an equation the display shows the last result of the run. -/
theorem displays_after {s : Session} {last : Option Double}
    (h : s.isNew = true → s.Displays last) (calls : List Call)
    (new : (s.after calls).isNew = true) :
    (s.after calls).Displays (s.lastResult last calls) := by
  induction calls generalizing s last with
  | nil => exact h new
  | cons call calls ih => exact ih ((s.effect_next call).displays h) new

/-- What a number is to a session in which it is added to the memory or subtracted from it, and in
which functions are applied to it. -/
structure Uses (s : Session) (a : Double) : Prop where
  added : ∀ now, (s.next ⟨now, .memoryAdd⟩).memory.value = s.memory.value + a
  subtracted : ∀ now, (s.next ⟨now, .memorySubtract⟩).memory.value = s.memory.value - a
  applied : ∀ now name f, ScientificFunction.ofName? name = some f →
    s.answer ⟨now, .scientific name⟩ = .ok (.result (f.apply a)) ∨
      ∃ y failure, f.apply a = .ok y ∧ s.answer ⟨now, .scientific name⟩ = .error (.store failure)

/-- The number on the display is used. -/
lemma uses_displayValue (s : Session) : s.Uses s.displayValue := by
  refine ⟨fun now => rfl, fun now => rfl, fun now name f hname => ?_⟩
  have heffect := s.effect_next ⟨now, .scientific name⟩
  generalize s.next ⟨now, .scientific name⟩ = s', s.answer ⟨now, .scientific name⟩ = answer
    at heffect ⊢
  cases heffect with
  | noFunction unknown => cases hname.symm.trans unknown
  | outside known value =>
    cases hname.symm.trans known
    exact Or.inl (by rw [value])
  | applied known value keeps =>
    cases hname.symm.trans known
    exact Or.inl (by rw [value])
  | unapplied known value keeps =>
    cases hname.symm.trans known
    exact Or.inr ⟨_, _, value, rfl⟩

/-! ### The memory -/

/-- What is done to the memory with a number. -/
inductive Posting where
  | added (x : Double)
  | subtracted (x : Double)

/-- The memory after a posting. -/
def Posting.onto (total : Double) : Posting → Double
  | .added x => total + x
  | .subtracted x => total - x

/-- What an operation does to the memory with the number on the display. -/
def posting? (s : Session) : Operation → Option Posting
  | .memoryAdd => some (.added s.displayValue)
  | .memorySubtract => some (.subtracted s.displayValue)
  | .press _ | .submit | .clear | .memoryRecall | .memoryClear | .scientific _ | .convert .. => none

/-- What calls that are made one after the other do to the memory. -/
def postings (s : Session) : List Call → List Posting
  | [] => []
  | call :: calls => (s.posting? call.operation).toList ++ (s.next call).postings calls

/-- An operation that does not clear the memory changes it by its posting alone. -/
lemma Effect.memory {s s' : Session} {now : Moment} {op : Operation}
    {answer : Except Refusal Outcome} (h : Effect s now op s' answer) (kept : op ≠ .memoryClear) :
    s'.memory.value = (s.posting? op).toList.foldl Posting.onto s.memory.value := by
  cases h with
  | forgotten => exact absurd rfl kept
  | _ => rfl

/-- An operation that neither adds, subtracts nor clears leaves the memory as it is. -/
lemma Effect.memory_eq {s s' : Session} {now : Moment} {op : Operation}
    {answer : Except Refusal Outcome} (h : Effect s now op s' answer) (added : op ≠ .memoryAdd)
    (subtracted : op ≠ .memorySubtract) (cleared : op ≠ .memoryClear) : s'.memory = s.memory := by
  cases h with
  | added => exact absurd rfl added
  | subtracted => exact absurd rfl subtracted
  | forgotten => exact absurd rfl cleared
  | _ => rfl

/-- A run without a clearing changes the memory by its postings alone. -/
lemma memory_after {s : Session} {calls : List Call}
    (h : ∀ call ∈ calls, call.operation ≠ .memoryClear) :
    (s.after calls).memory.value = (s.postings calls).foldl Posting.onto s.memory.value := by
  induction calls generalizing s with
  | nil => rfl
  | cons call calls ih =>
    have hnext := (s.effect_next call).memory (h call List.mem_cons_self)
    have hrest : ∀ later ∈ calls, later.operation ≠ .memoryClear := fun later hlater =>
      h later (List.mem_cons_of_mem call hlater)
    rw [postings, List.foldl_append, ← hnext]
    exact ih hrest

/-- At the beginning of an equation the memory and the functions are given the last result of the
run, as an equal number, or zero if there is none or it is not finite.

In every run nothing but adding, subtracting and clearing changes the memory. It is the sum of what
has been added and subtracted since the last clearing, which begins with zero, or since the
beginning of the run. -/
theorem last_result_is_used (history : Option Store) (calls : List Call) :
    (((start history).after calls).isNew = true →
      ((start history).after calls).displayValue.equal
          (amount ((start history).lastResult none calls)) = true ∧
        ((start history).after calls).Uses ((start history).after calls).displayValue) ∧
    ∀ s : Session,
      (∀ call : Call, call.operation ≠ .memoryAdd → call.operation ≠ .memorySubtract →
        call.operation ≠ .memoryClear → (s.next call).memory = s.memory) ∧
      ((∀ call ∈ calls, call.operation ≠ .memoryClear) →
        (s.after calls).memory.value = (s.postings calls).foldl Posting.onto s.memory.value ∧
        ∀ before now, (s.after (before ++ ⟨now, .memoryClear⟩ :: calls)).memory.value =
          (((s.after before).next ⟨now, .memoryClear⟩).postings calls).foldl Posting.onto
            (.zero false)) := by
  refine ⟨fun hnew => ?_, fun s => ⟨fun call hadd hsubtract hclear => ?_, fun hkept => ?_⟩⟩
  · have hstart : (start history).isNew = true → (start history).Displays none :=
      fun _ => Or.inl rfl
    have hdisplays := displays_after hstart calls hnew
    exact ⟨hdisplays.equal_amount, uses_displayValue _⟩
  · exact (s.effect_next call).memory_eq hadd hsubtract hclear
  · refine ⟨memory_after hkept, fun before now => ?_⟩
    rw [after_append]
    exact memory_after hkept

/-! ### Results that are refused -/

/-- Zero is not used if the memory is not what it becomes when a zero is added. -/
lemma not_uses_zero {s : Session} (now : Moment)
    (h : ∀ negative,
      (s.next ⟨now, .memoryAdd⟩).memory.value ≠ s.memory.value + Double.zero negative)
    (a : Double) (ha : a.equal (.zero false) = true) : ¬s.Uses a := by
  obtain ⟨negative, rfl⟩ := Double.eq_zero_of_equal ha
  intro huses
  exact h negative (huses.added now)

/-- A session in which `5` is submitted. -/
def ofFive : Session :=
  (start none).after [⟨Store.sampleMoment, .press "5"⟩, ⟨Store.sampleMoment, .submit⟩]

/-- A function of a name that no function has is applied. -/
def sampleUnknown : Call := ⟨Store.sampleMoment, .scientific "exp"⟩

/-- A kilometre is converted to metres. -/
def sampleConversion : Call := ⟨Store.sampleMoment, .convert (.ofNat 1) "length" "km" "m"⟩

/-- After a function of an unknown name is refused, the result before it is used and not zero. After
the history refuses a conversion, the converted quantity is used, though no call has returned a
result. -/
theorem used_though_refused :
    ((ofFive.answer sampleUnknown).isOk = false ∧ (ofFive.next sampleUnknown).isNew = true ∧
      ∀ a : Double, a.equal (.zero false) = true → ¬(ofFive.next sampleUnknown).Uses a) ∧
    ((start (some sampleBlocked)).answer sampleConversion).isOk = false ∧
      ((start (some sampleBlocked)).next sampleConversion).isNew = true ∧
      ∀ a : Double, a.equal (.zero false) = true →
        ¬((start (some sampleBlocked)).next sampleConversion).Uses a := by
  refine ⟨⟨by decide +kernel, by decide +kernel, ?_⟩, by decide +kernel, by decide +kernel, ?_⟩
  · exact not_uses_zero Store.sampleMoment (by decide +kernel)
  · exact not_uses_zero Store.sampleMoment (by decide +kernel)

end Session

end Calculator
