import Calculator.Command
import Calculator.Proofs.Console
import Calculator.Proofs.Session.Journal

/-!
# Lines of an interactive session

The lines of an interactive session ask for operations, up to the line that ends it
(`Interactive.calls`). The session carries them all out (`Interactive.run_of_accepts`), or it is
interrupted at the first line whose calculation the history refuses, and then it has written what
the lines before it write (`Interactive.run_of_breaks`). What every call keeps holds of the session
all along (`Interactive.run_invariant`).
-/

namespace Calculator

/-! ### Output -/

namespace Output

/-- What is written of an expression: its value, or a report of its error. -/
def ofEvaluation (expression : String) : Output :=
  match evaluate expression with
  | .ok x => .line x.display
  | .error e => .shown (errorReport expression e)

/-- Outputs are written one after the other. -/
lemma append_eq (a b : Output) : a ++ b = ⟨a.text ++ b.text, a.console ++ b.console⟩ := rfl

/-- Outputs may be grouped. -/
lemma append_assoc (a b c : Output) : a ++ b ++ c = a ++ (b ++ c) := by
  simp only [append_eq, String.append_assoc, List.append_assoc]

/-- Nothing may be written before an output. -/
lemma empty_append (a : Output) : empty ++ a = a := by
  simp only [append_eq, empty, String.empty_append, List.nil_append]

/-- Nothing may be written after an output. -/
lemma append_empty (a : Output) : a ++ empty = a := by
  simp only [append_eq, empty, String.append_empty, List.append_nil]

end Output

/-- The reply of a line whose calculation the history refuses. -/
def Reply.refused (failure : StoreFailure) : Reply := .interrupted (.refusal (.store failure))

/-! ### Lines -/

namespace Line

/-- The operations that a line asks for. -/
def operations : Line → List Session.Operation
  | .blank | .quit => []
  | .memory .add => [.memoryAdd]
  | .memory .subtract => [.memorySubtract]
  | .memory .recall => [.memoryRecall]
  | .memory .clear => [.memoryClear]
  | .clear => [.clear]
  | .function f => [.scientific f.name]
  | .again => [.submit]
  | .expression text => [.press text, .submit]

/-- The calls that a line asks for. -/
def calls (now : Moment) (line : Line) : List Session.Call :=
  line.operations.map (Session.Call.mk now)

end Line

/-- The calls that a line of input asks for. -/
def Input.calls (input : Input) : List Session.Call := input.line.calls input.now

namespace Interactive

open Session

variable {console : Console}

/-! ### One line -/

/-- An equation is submitted, evaluated and finished, or the history refuses the calculation. -/
lemma calculate_cases (console : Console) (s : Session) (now : Moment) :
    ((∀ failure, s.answer ⟨now, .submit⟩ ≠ .error (.store failure)) ∧
      (s.next ⟨now, .submit⟩).isNew = true ∧
      calculate console s now =
        (s.next ⟨now, .submit⟩, .written (.ofEvaluation s.equation))) ∨
    ∃ failure, s.answer ⟨now, .submit⟩ = .error (.store failure) ∧
      calculate console s now = (s.next ⟨now, .submit⟩, .refused failure) := by
  have heffect := s.effect_submit now
  simp only [answer, next, Session.step]
  unfold calculate Output.ofEvaluation
  generalize s.submit now = submitted at heffect ⊢
  obtain ⟨next, answer⟩ := submitted
  cases heffect with
  | failed value =>
    exact Or.inl ⟨fun _ h => (by cases h), rfl, by simp only [value, Console.reply_errorReport]⟩
  | submitted value keeps => exact Or.inl ⟨fun _ h => (by cases h), rfl, by simp only [value]⟩
  | unsubmitted value keeps => exact Or.inr ⟨_, rfl, rfl⟩

/-- A function is applied and an equation finished, or the history refuses the calculation. -/
lemma apply_cases (console : Console) (s : Session) (now : Moment) (f : ScientificFunction) :
    ((∀ failure, s.answer ⟨now, .scientific f.name⟩ ≠ .error (.store failure)) ∧
      (s.next ⟨now, .scientific f.name⟩).isNew = true ∧
      ∃ output, apply console s now f = (s.next ⟨now, .scientific f.name⟩, .written output)) ∨
    ∃ failure, s.answer ⟨now, .scientific f.name⟩ = .error (.store failure) ∧
      apply console s now f = (s.next ⟨now, .scientific f.name⟩, .refused failure) := by
  have hname : s.scientific now f.name = s.applyFunction now f := by
    simp only [scientific, f.ofName?_name]
  have heffect := s.effect_scientific now f.name
  simp only [answer, next, Session.step, hname] at heffect ⊢
  unfold apply
  generalize s.applyFunction now f = applied at heffect ⊢
  obtain ⟨next, answer⟩ := applied
  cases heffect with
  | noFunction unknown => cases unknown.symm.trans f.ofName?_name
  | outside known value =>
    exact Or.inl ⟨fun _ h => (by cases h), rfl, _, Prod.ext rfl (console.reply_errorLine _)⟩
  | applied known value keeps => exact Or.inl ⟨fun _ h => (by cases h), rfl, _, rfl⟩
  | unapplied known value keeps => exact Or.inr ⟨_, rfl, rfl⟩

/-- A call that succeeds is not refused. -/
lemma accepts_of_ok {s : Session} {call : Call} {outcome : Outcome}
    (h : s.answer call = .ok outcome) : s.Accepts [call] :=
  ⟨fun _ hfailure => (by cases h.symm.trans hfailure), trivial⟩

/-- A line makes its calls and writes something, or the history refuses the calculation of its last
call. -/
theorem step_cases (console : Console) (s : Session) (now : Moment) (line : Line) :
    (s.Accepts (line.calls now) ∧
      ∃ output, step console s now line = (s.after (line.calls now), .written output)) ∨
    ∃ before call failure, line.calls now = before ++ [call] ∧
      (s.after before).answer call = .error (.store failure) ∧
      step console s now line = (s.after (line.calls now), .refused failure) := by
  cases line with
  | blank | quit => exact Or.inl ⟨trivial, _, rfl⟩
  | clear => exact Or.inl ⟨accepts_of_ok rfl, _, rfl⟩
  | memory command =>
    refine Or.inl ?_
    match command with
    | .recall => exact ⟨accepts_of_ok rfl, _, rfl⟩
    | .add | .subtract | .clear =>
      exact ⟨accepts_of_ok rfl, _, Prod.ext rfl (console.reply_memoryLine _)⟩
  | function f =>
    rcases apply_cases console s now f with
      ⟨haccepted, -, hstep⟩ | ⟨failure, hanswer, hstep⟩
    · exact Or.inl ⟨⟨haccepted, trivial⟩, hstep⟩
    · exact Or.inr ⟨[], _, failure, rfl, hanswer, hstep⟩
  | again =>
    rcases calculate_cases console s now with
      ⟨haccepted, -, hstep⟩ | ⟨failure, hanswer, hstep⟩
    · exact Or.inl ⟨⟨haccepted, trivial⟩, _, hstep⟩
    · exact Or.inr ⟨[], _, failure, rfl, hanswer, hstep⟩
  | expression text =>
    rcases calculate_cases console (s.press text) now with
      ⟨haccepted, -, hstep⟩ | ⟨failure, hanswer, hstep⟩
    · exact Or.inl ⟨⟨(accepts_of_ok rfl).1, haccepted, trivial⟩, _, hstep⟩
    · exact Or.inr ⟨[⟨now, .press text⟩], _, failure, rfl, hanswer, hstep⟩

/-- A line makes its calls and writes something, unless the history refuses a calculation. -/
lemma step_of_accepts (console : Console) {s : Session} {now : Moment} {line : Line}
    (accepted : s.Accepts (line.calls now)) :
    ∃ output, step console s now line = (s.after (line.calls now), .written output) := by
  rcases step_cases console s now line with ⟨-, hstep⟩ | ⟨before, call, failure, hcalls, hanswer, -⟩
  · exact hstep
  · rw [hcalls] at accepted
    exact absurd hanswer ((accepts_append.mp accepted).2.1 failure)

/-- An expression is evaluated with what is typed before it, unless the history refuses it. -/
lemma step_expression {s : Session} {now : Moment} {text : String}
    (accepted : s.Accepts ((Line.expression text).calls now)) :
    (step console s now (.expression text)).2 =
      .written (.ofEvaluation (s.press text).equation) := by
  rcases calculate_cases console (s.press text) now with ⟨-, -, hstep⟩ | ⟨failure, hanswer, -⟩
  · exact congrArg Prod.snd hstep
  · exact absurd hanswer (accepted.2.1 failure)

/-! ### Lines up to the end -/

/-- The calls that lines ask for, up to the line that ends the session. -/
def calls (inputs : List Input) : List Call :=
  (inputs.takeWhile (·.line ≠ .quit)).flatMap Input.calls

variable {input : Input} {before inputs : List Input} {s : Session}

/-- The calls of a first line come first. -/
lemma calls_cons (h : input.line ≠ .quit) (inputs : List Input) :
    calls (input :: inputs) = input.calls ++ calls inputs := by
  simp only [calls, List.takeWhile_cons, h, ne_eq, not_false_eq_true, decide_true, if_true,
    List.flatMap_cons]

/-- The calls of one line. -/
lemma calls_singleton (h : input.line ≠ .quit) : calls [input] = input.calls := by
  rw [calls_cons h]
  exact List.append_nil _

/-- No calls are made from the line on that ends the session. -/
lemma calls_quit (h : input.line = .quit) (inputs : List Input) :
    calls (input :: inputs) = [] := by
  simp only [calls, List.takeWhile_cons, h, ne_eq, not_true_eq_false, decide_false,
    Bool.false_eq_true, if_false, List.flatMap_nil]

/-- Calls of lines one after the other. -/
lemma calls_append (h : ∀ other ∈ before, other.line ≠ .quit) (inputs : List Input) :
    calls (before ++ inputs) = calls before ++ calls inputs := by
  induction before with
  | nil => rfl
  | cons input before ih =>
    obtain ⟨hline, hbefore⟩ := List.forall_mem_cons.mp h
    rw [List.cons_append, calls_cons hline, calls_cons hline, ih hbefore, List.append_assoc]

/-- The session ends at the line that ends it. -/
lemma run_quit (h : input.line = .quit) (s : Session) (written : Output) (inputs : List Input) :
    run console s written (input :: inputs) = (s, .written written) :=
  if_pos h

/-- A line that replies something is carried out, and then the lines after it. -/
lemma run_cons_written {next : Session} {output : Output} (h : input.line ≠ .quit)
    (hstep : step console s input.now input.line = (next, .written output)) (written : Output)
    (inputs : List Input) :
    run console s written (input :: inputs) = run console next (written ++ output) inputs := by
  rw [run, if_neg h, hstep]
  rfl

/-- A line that is refused interrupts the session. -/
lemma run_cons_refused {next : Session} {failure : StoreFailure} (h : input.line ≠ .quit)
    (hstep : step console s input.now input.line = (next, .refused failure)) (written : Output)
    (inputs : List Input) :
    run console s written (input :: inputs) =
      (next, ⟨written, some (.refusal (.store failure))⟩) := by
  rw [run, if_neg h, hstep]
  exact Prod.ext rfl (congrArg (Reply.mk · _) (Output.append_empty written))

/-- Lines after the end have no effect. -/
theorem run_append_quit {quit : Input} (h : quit.line = .quit) (s : Session) (written : Output)
    (before rest : List Input) :
    run console s written (before ++ quit :: rest) = run console s written before := by
  induction before generalizing s written with
  | nil => exact run_quit h s written rest
  | cons input before ih =>
    by_cases hquit : input.line = .quit
    · rw [List.cons_append, run_quit hquit, run_quit hquit]
    · rw [List.cons_append]
      rcases step_cases console s input.now input.line with
        ⟨-, output, hstep⟩ | ⟨-, -, failure, -, -, hstep⟩
      · rw [run_cons_written hquit hstep, run_cons_written hquit hstep, ih]
      · rw [run_cons_refused hquit hstep, run_cons_refused hquit hstep]

/-- Lines are carried out after the lines before them. -/
lemma run_append {s' : Session} {written written' : Output}
    (h : ∀ other ∈ before, other.line ≠ .quit)
    (hbefore : run console s written before = (s', .written written')) (inputs : List Input) :
    run console s written (before ++ inputs) = run console s' written' inputs := by
  induction before generalizing s written with
  | nil =>
    obtain ⟨rfl, hwritten⟩ := Prod.mk.inj hbefore
    cases hwritten
    rfl
  | cons input before ih =>
    obtain ⟨hline, hrest⟩ := List.forall_mem_cons.mp h
    rcases step_cases console s input.now input.line with
      ⟨-, output, hstep⟩ | ⟨-, -, failure, -, -, hstep⟩
    · rw [run_cons_written hline hstep] at hbefore
      rw [List.cons_append, run_cons_written hline hstep]
      exact ih hrest hbefore
    · rw [run_cons_refused hline hstep] at hbefore
      cases hbefore

/-- Unless the history refuses a calculation, all calls are made up to the end of the session, and
what is written is written after what was written before. -/
theorem run_of_accepts (console : Console) (accepted : s.Accepts (calls inputs)) :
    ∃ output, ∀ written,
      run console s written inputs = (s.after (calls inputs), .written (written ++ output)) := by
  induction inputs generalizing s with
  | nil => exact ⟨.empty, fun written => by rw [Output.append_empty]; rfl⟩
  | cons input inputs ih =>
    by_cases hquit : input.line = .quit
    · refine ⟨.empty, fun written => ?_⟩
      rw [run_quit hquit, calls_quit hquit, Output.append_empty]
      rfl
    · rw [calls_cons hquit] at accepted ⊢
      obtain ⟨hline, hlines⟩ := accepts_append.mp accepted
      obtain ⟨first, hstep⟩ := step_of_accepts console hline
      obtain ⟨rest, hrun⟩ := ih hlines
      refine ⟨first ++ rest, fun written => ?_⟩
      rw [run_cons_written hquit hstep, after_append, ← Output.append_assoc]
      exact hrun (written ++ first)

/-- Where the history refuses a calculation of a session: at a line before which it refuses none,
for the last call of the line. -/
structure BreaksAt (s : Session) (inputs before : List Input) (input : Input)
    (failure : StoreFailure) : Prop where
  reached : ∃ rest, inputs = before ++ input :: rest
  goesOn : ∀ other ∈ before ++ [input], other.line ≠ .quit
  accepted : s.Accepts (calls before)
  refused : ∃ earlier call, input.calls = earlier ++ [call] ∧
    ((s.after (calls before)).after earlier).answer call = .error (.store failure)

/-- Lines after the one that is refused are not reached. -/
lemma BreaksAt.line {failure : StoreFailure} (h : BreaksAt s inputs before input failure) :
    BreaksAt s (before ++ [input]) before input failure :=
  { h with reached := ⟨[], rfl⟩ }

/-- A session carries out all lines, or it is interrupted at the first line whose calculation the
history refuses. -/
theorem accepts_or_breaks (s : Session) (inputs : List Input) :
    s.Accepts (calls inputs) ∨ ∃ before input failure, BreaksAt s inputs before input failure := by
  induction inputs generalizing s with
  | nil => exact Or.inl trivial
  | cons input inputs ih =>
    by_cases hquit : input.line = .quit
    · exact Or.inl (by rw [calls_quit hquit]; trivial)
    · rcases step_cases .tolerant s input.now input.line with
        ⟨haccepted, -⟩ | ⟨earlier, call, failure, hcalls, hanswer, -⟩
      · rcases ih (s.after input.calls) with hrest | ⟨before, last, failure, hbreaks⟩
        · rw [calls_cons hquit]
          exact Or.inl (accepts_append.mpr ⟨haccepted, hrest⟩)
        · obtain ⟨rest, rfl⟩ := hbreaks.reached
          refine Or.inr ⟨input :: before, last, failure, ⟨rest, rfl⟩, ?_, ?_, ?_⟩
          · exact List.forall_mem_cons.mpr ⟨hquit, hbreaks.goesOn⟩
          · rw [calls_cons hquit]
            exact accepts_append.mpr ⟨haccepted, hbreaks.accepted⟩
          · rw [calls_cons hquit, after_append]
            exact hbreaks.refused
      · exact Or.inr ⟨[], input, failure, ⟨inputs, rfl⟩,
          fun other hother => List.mem_singleton.mp hother ▸ hquit, trivial, earlier, call, hcalls,
          hanswer⟩

/-- A session that is interrupted has written what it writes up to the line before, and has made the
calls of the line that is refused. -/
theorem run_of_breaks (console : Console) {failure : StoreFailure}
    (h : BreaksAt s inputs before input failure) :
    ∃ output, ∀ written,
      run console s written before = (s.after (calls before), .written (written ++ output)) ∧
      run console s written inputs =
        ((s.after (calls before)).after input.calls,
          ⟨written ++ output, some (.refusal (.store failure))⟩) := by
  obtain ⟨rest, rfl⟩ := h.reached
  obtain ⟨hbefore, hline⟩ := List.forall_mem_append.mp h.goesOn
  obtain ⟨earlier, call, hcalls, hanswer⟩ := h.refused
  obtain ⟨output, hrun⟩ := run_of_accepts console h.accepted
  refine ⟨output, fun written => ⟨hrun written, ?_⟩⟩
  rw [run_append hbefore (hrun written)]
  refine run_cons_refused (hline input (List.mem_singleton.mpr rfl)) ?_ _ _
  rcases step_cases console (s.after (calls before)) input.now input.line with
    ⟨haccepted, -⟩ | ⟨earlier', call', failure', hcalls', hanswer', hstep⟩
  · change (s.after (calls before)).Accepts input.calls at haccepted
    rw [hcalls] at haccepted
    exact absurd hanswer ((accepts_append.mp haccepted).2.1 failure)
  · -- A line has one last call, so the refusal is the same.
    change input.calls = _ at hcalls'
    obtain ⟨rfl, hcall⟩ := List.append_inj' (hcalls'.symm.trans hcalls) rfl
    cases hcall
    cases hanswer'.symm.trans hanswer
    exact hstep

/-- What every call keeps holds of the session in the end, and when it is refused: only the history
interrupts a session. -/
theorem run_invariant {P : Session → Prop} (hnext : ∀ s call, P s → P (s.next call)) (h : P s)
    (console : Console) (written : Output) (inputs : List Input) :
    P (run console s written inputs).1 ∧
      ∀ cause, (run console s written inputs).2.interruption = some cause →
        ∃ s' call failure, P s' ∧ s'.answer call = .error (.store failure) ∧
          cause = .refusal (.store failure) := by
  rcases accepts_or_breaks s inputs with haccepted | ⟨before, input, failure, hbreaks⟩
  · obtain ⟨output, hrun⟩ := run_of_accepts console haccepted
    rw [hrun]
    exact ⟨after_invariant hnext h _, fun _ hcause => by cases hcause⟩
  · obtain ⟨output, hrun⟩ := run_of_breaks console hbreaks
    obtain ⟨earlier, call, -, hanswer⟩ := hbreaks.refused
    have hbefore := after_invariant hnext h (calls before)
    rw [(hrun written).2]
    refine ⟨after_invariant hnext hbefore _, fun cause hcause => ?_⟩
    exact ⟨_, call, failure, after_invariant hnext hbefore earlier, hanswer,
      (Option.some.inj hcause).symm⟩

/-- What a line writes stands between what the lines before it and the lines after it write. -/
lemma run_line (console : Console) {rest : List Input} (h : ∀ other ∈ before, other.line ≠ .quit)
    (hline : input.line ≠ .quit) (accepted : s.Accepts (calls (before ++ input :: rest))) :
    ∃ earlier output later,
      step console (s.after (calls before)) input.now input.line =
        ((s.after (calls before)).after input.calls, .written output) ∧
      ∀ written,
        (run console s written before).2 = .written (written ++ earlier) ∧
        (run console s written (before ++ [input])).2 = .written (written ++ earlier ++ output) ∧
        (run console s written (before ++ input :: rest)).2 =
          .written (written ++ earlier ++ output ++ later) := by
  rw [calls_append h, calls_cons hline, accepts_append, accepts_append] at accepted
  obtain ⟨hbefore, hcalls, hrest⟩ := accepted
  obtain ⟨earlier, hearlier⟩ := run_of_accepts console hbefore
  obtain ⟨output, hstep⟩ := step_of_accepts console hcalls
  obtain ⟨later, hlater⟩ := run_of_accepts console hrest
  refine ⟨earlier, output, later, hstep, fun written => ⟨?_, ?_, ?_⟩⟩
  · rw [hearlier]
  · rw [run_append h (hearlier written), run_cons_written hline hstep]
    rfl
  · rw [run_append h (hearlier written), run_cons_written hline hstep]
    exact congrArg Prod.snd (hlater _)

/-- The help is shown, and then the lines are carried out. -/
lemma carryOut_eq (console : Console) (s : Session) (inputs : List Input) :
    carryOut console s inputs = run console s (.shown [help]) inputs := by
  simp only [carryOut, Console.reply_help, Reply.written]

end Interactive

/-! ### The command -/

/-- Whether a command is interrupted. -/
def Completion.IsInterrupted (completion : Completion) : Prop :=
  ∃ cause, completion.exit = .interrupted cause

namespace Command

/-- The session that the interactive command begins. -/
def session (setting : Setting) (folder : Folder) (recording : Recording) : Session :=
  .start (if recording.isOn then some (setting.store folder recording.user) else none)

/-- A report of an error is shown. -/
lemma say_errorReport (setting : Setting) (source : String) (e : Error) (exit : Exit) :
    setting.say (Output.errorReport source e) exit =
      ⟨.shown (Output.errorReport source e), exit⟩ := by
  rw [Setting.say, Console.reply_errorReport]
  rfl

/-- A result that is not recorded is written. -/
lemma conclude_of_off {recording : Recording} (off : recording.isOn = false) (setting : Setting)
    (folder : Folder) (equation result : String) (kind : RecordKind) :
    conclude setting folder recording equation result kind =
      (folder, .success (.line result)) := by
  simp only [conclude, off, Bool.false_eq_true, if_false]

/-- A result is written, or it is recorded and the history refuses it. -/
lemma conclude_cases (setting : Setting) (folder : Folder) (recording : Recording)
    (equation result : String) (kind : RecordKind) :
    (conclude setting folder recording equation result kind).2 = .success (.line result) ∨
      recording.isOn = true ∧ ∃ failure,
        (conclude setting folder recording equation result kind).2 =
          .interrupted (.refusal (.store failure)) := by
  cases hon : recording.isOn with
  | false =>
    rw [conclude_of_off hon]
    exact Or.inl rfl
  | true =>
    simp only [conclude, hon, if_true]
    rcases (setting.store folder recording.user).record setting.now equation result kind.name with
      ⟨store, failure | entry⟩
    · exact Or.inr ⟨trivial, failure, rfl⟩
    · exact Or.inl rfl

/-- The command ends as its session does. -/
lemma run_interactive (setting : Setting) (folder : Folder) (recording : Recording)
    (inputs : List Input) :
    run setting folder (.interactive recording inputs) =
      ((((Interactive.run setting.console (session setting folder recording)
          (.shown [Interactive.help]) inputs).1.history.map (·.folder)).getD folder),
        (Interactive.run setting.console (session setting folder recording)
          (.shown [Interactive.help]) inputs).2.completion .success) := by
  simp only [run, interact, Interactive.carryOut_eq]
  rfl

/-- An interactive session succeeds that is not refused by the history. -/
lemma run_interactive_of_accepts {setting : Setting} {folder : Folder} {recording : Recording}
    {inputs : List Input}
    (accepted : (session setting folder recording).Accepts (Interactive.calls inputs)) :
    ∃ output, run setting folder (.interactive recording inputs) =
      ((((session setting folder recording).after
        (Interactive.calls inputs)).history.map (·.folder)).getD folder, .success output) := by
  obtain ⟨output, hrun⟩ := Interactive.run_of_accepts setting.console accepted
  refine ⟨Output.shown [Interactive.help] ++ output, ?_⟩
  rw [run_interactive, hrun]
  rfl

/-- A named user at some moment, with a console that refuses nothing. -/
def sampleSetting : Setting :=
  ⟨[(Environment.userVariable, "tester")], Store.sampleMoment, .tolerant⟩

end Command

end Calculator
