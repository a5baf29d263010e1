import Calculator.Proofs.Command.Ledger
import Calculator.Proofs.Session.Refusals

/-!
# Recording has no influence

Two runs are compared that differ only in what is recorded. A session answers as it does without a
history as long as the history refuses nothing (`Session.after_unrecorded`), and so do the lines of
an interactive session (`Interactive.run_unrecorded`). A command that carries out calculations
ends in the same way whether they are recorded or not, and whatever stands in the folder, unless the
history refuses one of them: then it has written a beginning of what it writes otherwise
(`Command.answered_run`).
-/

namespace Calculator

/-! ### Sessions -/

namespace Session

/-- As long as its history refuses nothing, a session goes through the same states and gives the
same answers as without a history. -/
lemma after_unrecorded {s : Session} {calls : List Call} (accepted : s.Accepts calls)
    {before : List Call} (first : before <+: calls) :
    s.unrecorded.after before = (s.after before).unrecorded ∧
      ∀ call, before ++ [call] <+: calls →
        (s.unrecorded.after before).answer call = (s.after before).answer call := by
  induction calls generalizing s before with
  | nil =>
    rw [List.prefix_nil.mp first]
    refine ⟨rfl, fun call hcall => ?_⟩
    cases List.prefix_nil.mp hcall
  | cons call calls ih =>
    obtain ⟨haccepted, hrest⟩ := accepted
    obtain ⟨hnext, hanswer⟩ := next_unrecorded haccepted
    cases before with
    | nil =>
      refine ⟨rfl, fun other hother => ?_⟩
      obtain ⟨rfl, -⟩ := List.cons_prefix_cons.mp hother
      exact hanswer
    | cons other before =>
      obtain ⟨rfl, hbefore⟩ := List.cons_prefix_cons.mp first
      obtain ⟨hafter, hanswers⟩ := ih hrest hbefore
      rw [← hnext] at hafter hanswers
      refine ⟨hafter, fun last hlast => ?_⟩
      exact hanswers last (List.cons_prefix_cons.mp hlast).2

end Session

/-! ### Interactive sessions -/

namespace Interactive

open Session

variable {console : Console} {s : Session}

/-- The reply after an operation that calculates: the display, or a report of the error. -/
def told (report : Error → Reply) : Session × Except Refusal Outcome → Session × Reply
  | (next, .error refusal) => (next, .interrupted (.refusal refusal))
  | (next, .ok (.result (.error e))) => (next, report e)
  | (next, .ok _) => (next, .written (.line next.display))

/-- An equation is calculated by submitting it. -/
lemma calculate_eq (console : Console) (s : Session) (now : Moment) :
    calculate console s now =
      told (fun e => console.reply (Output.errorReport s.equation e)) (s.step now .submit) := by
  unfold calculate told
  rfl

/-- A function is applied under its name. -/
lemma apply_eq (console : Console) (s : Session) (now : Moment) (f : ScientificFunction) :
    apply console s now f =
      told (fun e => console.reply [Output.errorLine e]) (s.step now (.scientific f.name)) := by
  have hname : s.step now (.scientific f.name) = s.applyFunction now f := by
    simp only [Session.step, scientific, f.ofName?_name]
  rw [hname]
  unfold apply told
  rfl

/-- The reply after an operation that is not refused does not depend on the history. -/
lemma told_unrecorded {now : Moment} {op : Operation} (report : Error → Reply)
    (accepted : ∀ failure, s.answer ⟨now, op⟩ ≠ .error (.store failure)) :
    told report (s.unrecorded.step now op) =
      ((told report (s.step now op)).1.unrecorded, (told report (s.step now op)).2) := by
  have hstep : s.unrecorded.step now op = ((s.step now op).1.unrecorded, (s.step now op).2) :=
    Prod.ext_iff.mpr (next_unrecorded accepted)
  rw [hstep]
  rcases s.step now op with ⟨next, refusal | (_ | (e | x) | x)⟩ <;> rfl

/-- The reply to a line of which no calculation is refused does not depend on the history. -/
lemma step_unrecorded {now : Moment} {line : Line} (accepted : s.Accepts (line.calls now)) :
    step console s.unrecorded now line =
      ((step console s now line).1.unrecorded, (step console s now line).2) := by
  cases line with
  | blank | quit | clear => rfl
  | memory command => cases command <;> rfl
  | function f =>
    simp only [step, apply_eq]
    exact told_unrecorded _ accepted.1
  | again =>
    simp only [step, calculate_eq]
    exact told_unrecorded _ accepted.1
  | expression text =>
    have htyped : s.unrecorded.press text = (s.press text).unrecorded :=
      (@next_unrecorded s ⟨now, .press text⟩ accepted.1).1
    simp only [step, calculate_eq, htyped]
    exact told_unrecorded _ accepted.2.1

/-- What is written of lines of which no calculation is refused does not depend on the history. -/
theorem run_unrecorded {inputs : List Input} (accepted : s.Accepts (calls inputs))
    (written : Output) :
    run console s.unrecorded written inputs =
      ((run console s written inputs).1.unrecorded, (run console s written inputs).2) := by
  induction inputs generalizing s written with
  | nil => rfl
  | cons input inputs ih =>
    by_cases hquit : input.line = .quit
    · rw [run_quit hquit, run_quit hquit]
    · rw [calls_cons hquit] at accepted
      obtain ⟨hline, hlines⟩ := accepts_append.mp accepted
      obtain ⟨output, hstep⟩ := step_of_accepts console hline
      have hunrecorded := @step_unrecorded console s input.now input.line hline
      rw [hstep] at hunrecorded
      rw [run_cons_written hquit hstep, run_cons_written hquit hunrecorded]
      exact ih hlines _

/-- Only a history refuses calculations. -/
lemma BreaksAt.history_ne_none {inputs before : List Input} {input : Input} {failure : StoreFailure}
    (h : BreaksAt s inputs before input failure) : s.history ≠ none := by
  intro hoff
  obtain ⟨earlier, call, -, hanswer⟩ := h.refused
  have haccepts := accepts_of_off hoff (calls before ++ (earlier ++ [call]))
  obtain ⟨-, hline⟩ := accepts_append.mp haccepts
  exact absurd hanswer ((accepts_append.mp hline).2.1 failure)

/-- Where the history refuses a calculation, a session goes on without it. -/
lemma run_unrecorded_of_breaks {inputs before : List Input} {input : Input}
    {failure : StoreFailure} (h : BreaksAt s inputs before input failure) (console : Console)
    (written : Output) :
    ∃ output rest,
      (run console s written inputs).2 = ⟨output, some (.refusal (.store failure))⟩ ∧
      (run console s.unrecorded written inputs).2 = .written (output ++ rest) := by
  obtain ⟨output, hrun⟩ := run_of_breaks console h
  obtain ⟨hbefore, hinputs⟩ := hrun written
  obtain ⟨later, rfl⟩ := h.reached
  have hunrecorded := @run_unrecorded console s before h.accepted written
  rw [hbefore] at hunrecorded
  have hoff : (s.after (calls before)).unrecorded.history = none := rfl
  obtain ⟨rest, hrest⟩ := run_of_accepts console (accepts_of_off hoff (calls (input :: later)))
  refine ⟨written ++ output, rest, congrArg Prod.snd hinputs, ?_⟩
  rw [run_append (List.forall_mem_append.mp h.goesOn).1 hunrecorded, hrest]

end Interactive

/-! ### Commands -/

/-- The recording of the same user, switched off. -/
def Recording.off (recording : Recording) : Recording := { recording with isOn := false }

namespace Command

/-- Whether a command lets it be chosen whether its calculations are recorded. -/
def HasSwitch : Command → Prop
  | .evaluate .. | .scientific .. | .convert .. | .interactive .. => True
  | .preview _ | .units _ | .history .. | .clearHistory _ => False

/-- The command whose calculations are not recorded. -/
def unrecorded : Command → Command
  | .evaluate expression recording => .evaluate expression recording.off
  | .scientific f x recording => .scientific f x recording.off
  | .convert x category source target recording =>
    .convert x category source target recording.off
  | .interactive recording inputs => .interactive recording.off inputs
  | .preview expression => .preview expression
  | .units category => .units category
  | .history user term category => .history user term category
  | .clearHistory user => .clearHistory user

/-- How a command ends that would end as given if its calculations were not recorded: in that way,
or, if it records them, with the refusal of one of them after a beginning of that output. -/
inductive Answered (command : Command) (whole : Completion) : Completion → Prop
  | whole : Answered command whole whole
  | refused {output rest : Output} {failure : StoreFailure}
      (records : command.isRecording = true) (written : whole.output = output ++ rest) :
      Answered command whole ⟨output, .interrupted (.refusal (.store failure))⟩

variable {setting : Setting} {folder : Folder}

/-- Switching the recording off does not change whether there is a choice. -/
lemma hasSwitch_unrecorded (command : Command) :
    command.unrecorded.HasSwitch ↔ command.HasSwitch := by
  cases command <;> exact Iff.rfl

/-- A single calculation ends as it does without recording, unless it is refused. -/
lemma answered_single {ε : Type} {value : Except ε Double} {recording : Recording}
    {equation : String} {kind : RecordKind} {report : ε → List ConsoleItem} {command : Command}
    (records : command.isRecording = recording.isOn) (setting : Setting)
    (folder other : Folder) :
    command.Answered (single setting other recording.off equation kind report value).2
      (single setting folder recording equation kind report value).2 := by
  cases value with
  | error e => exact .whole
  | ok x =>
    simp only [single, @conclude_of_off recording.off rfl]
    rcases conclude_cases setting folder recording equation x.display kind with
      hsame | ⟨hon, failure, hrefused⟩
    · rw [hsame]
      exact .whole
    · rw [hrefused]
      exact .refused (records.trans hon) (Output.empty_append _).symm

/-- An interactive session ends as it does without recording, unless one of its calculations is
refused. -/
lemma answered_interactive (setting : Setting) (folder other : Folder) (recording : Recording)
    (inputs : List Input) :
    (Command.interactive recording inputs).Answered
      (run setting other (.interactive recording.off inputs)).2
      (run setting folder (.interactive recording inputs)).2 := by
  have hsession : session setting other recording.off =
      (session setting folder recording).unrecorded := rfl
  simp only [run_interactive, hsession]
  rcases Interactive.accepts_or_breaks (session setting folder recording) inputs with
    haccepts | ⟨before, input, failure, hbreaks⟩
  · rw [Interactive.run_unrecorded haccepts]
    exact .whole
  · have hon : recording.isOn = true := eq_true_of_ne_false fun hoff =>
      hbreaks.history_ne_none (history_session_of_off hoff setting folder)
    obtain ⟨output, rest, hrefused, hwhole⟩ := Interactive.run_unrecorded_of_breaks hbreaks
      setting.console (.shown [Interactive.help])
    rw [hrefused, hwhole]
    exact .refused hon rfl

/-- A command that lets it be chosen ends as it does without recording and in any folder, unless one
of its calculations is refused. -/
theorem answered_run {command : Command} (switch : command.HasSwitch) (setting : Setting)
    (folder other : Folder) :
    command.Answered (run setting other command.unrecorded).2 (run setting folder command).2 := by
  cases command with
  | preview | units | history | clearHistory => cases switch
  | evaluate expression recording =>
    simp only [unrecorded, run_evaluate]
    exact answered_single rfl ..
  | scientific f x recording =>
    simp only [unrecorded, run_scientific]
    exact answered_single rfl ..
  | convert x category source target recording =>
    simp only [unrecorded, run_convert]
    exact answered_single rfl ..
  | interactive recording inputs => exact answered_interactive ..

/-- A failure that is reported is no refusal by the history. -/
lemma isRefused_say (setting : Setting) (items : List ConsoleItem) :
    (setting.say items .failure).exit.isRefused = false := by
  simp only [Setting.say, Console.reply, Reply.completion]
  cases (setting.console.print items).2 <;> rfl

/-- A single calculation that is not recorded is not refused. -/
lemma isRefused_single_off {ε : Type} (value : Except ε Double) (setting : Setting)
    (folder : Folder) (recording : Recording) (equation : String) (kind : RecordKind)
    (report : ε → List ConsoleItem) :
    (single setting folder recording.off equation kind report value).2.exit.isRefused =
      false := by
  cases value with
  | error e => exact isRefused_say setting (report e)
  | ok x =>
    simp only [single, @conclude_of_off recording.off rfl]
    rfl

/-- A command whose calculations are not recorded is not refused. -/
lemma isRefused_unrecorded {command : Command} (switch : command.HasSwitch) (setting : Setting)
    (folder : Folder) :
    (run setting folder command.unrecorded).2.exit.isRefused = false := by
  cases command with
  | preview | units | history | clearHistory => cases switch
  | evaluate expression recording =>
    simp only [unrecorded, run_evaluate]
    exact isRefused_single_off ..
  | scientific f x recording =>
    simp only [unrecorded, run_scientific]
    exact isRefused_single_off ..
  | convert x category source target recording =>
    simp only [unrecorded, run_convert]
    exact isRefused_single_off ..
  | interactive recording inputs =>
    obtain ⟨output, hrun⟩ := @run_interactive_of_off recording.off rfl setting folder inputs
    simp only [unrecorded, hrun]
    rfl

end Command

/-! ### Sequences of commands -/

namespace Request

/-- The request whose calculations are not recorded. -/
def unrecorded (request : Request) : Request :=
  { request with command := request.command.unrecorded }

/-- Requests that differ at most in whether their calculations are recorded. -/
def Switched (request request' : Request) : Prop :=
  request.command.HasSwitch ∧ request.unrecorded = request'.unrecorded

/-- Two requests and their answers: there is an answer, and no refusal, that both get, apart from
refusals where a calculation is recorded. -/
def Agree (answered answered' : Request × Completion) : Prop :=
  ∃ whole : Completion, whole.exit.isRefused = false ∧
    answered.1.command.Answered whole answered.2 ∧
    answered'.1.command.Answered whole answered'.2

/-- Of two requests that differ in recording alone, the second has the choice as well. -/
lemma Switched.hasSwitch {request request' : Request} (h : request.Switched request') :
    request'.command.HasSwitch := by
  have hcommand : request.command.unrecorded = request'.command.unrecorded :=
    congrArg Request.command h.2
  rw [← Command.hasSwitch_unrecorded, ← hcommand, Command.hasSwitch_unrecorded]
  exact h.1

/-- Requests that differ in recording alone get the same answer in any two folders, apart from
refusals. -/
lemma Switched.agree {request request' : Request} (h : request.Switched request')
    (folder folder' : Folder) :
    Agree (request, (request.command.run request.setting folder).2)
      (request', (request'.command.run request'.setting folder').2) := by
  obtain ⟨hsetting, hcommand⟩ := Request.mk.inj h.2
  refine ⟨(request.command.unrecorded.run request.setting folder).2,
    Command.isRefused_unrecorded h.1 .., Command.answered_run h.1 .., ?_⟩
  rw [hsetting, hcommand]
  exact Command.answered_run h.hasSwitch ..

end Request

/-- Requests and their answers, one after the other. -/
def Folder.answers (folder : Folder) : List Request → List (Request × Completion)
  | [] => []
  | request :: requests =>
    (request, (request.command.run request.setting folder).2) ::
      (request.command.run request.setting folder).1.answers requests

/-- Sequences of requests that differ in recording alone get the same answers in any two folders,
apart from refusals. -/
lemma agree_answers {requests requests' : List Request}
    (h : List.Forall₂ Request.Switched requests requests') (folder folder' : Folder) :
    List.Forall₂ Request.Agree (folder.answers requests) (folder'.answers requests') := by
  induction h generalizing folder folder' with
  | nil => exact .nil
  | cons first rest ih => exact .cons (first.agree folder folder') (ih _ _)

/-- What is recorded has no influence on what is calculated. As long as its history refuses nothing,
a session goes through the same states and gives the same answers as without a history. Sequences of
commands that differ only in what is recorded get the same answers in any two folders, except where
a command records a calculation and the history refuses it: then it ends with that after a beginning
of the same output. -/
theorem recording_has_no_influence :
    (∀ (s : Session) (calls before : List Session.Call), s.Accepts calls → before <+: calls →
      s.unrecorded.after before = (s.after before).unrecorded ∧
        ∀ call, before ++ [call] <+: calls →
          (s.unrecorded.after before).answer call = (s.after before).answer call) ∧
    ∀ requests requests' : List Request, List.Forall₂ Request.Switched requests requests' →
      ∀ folder folder' : Folder,
        List.Forall₂ Request.Agree (folder.answers requests) (folder'.answers requests') :=
  ⟨fun _ _ _ accepted first => Session.after_unrecorded accepted first,
    fun _ _ switched => agree_answers switched⟩

/-! ### A name that is too long -/

namespace Command

/-- An expression with a value is refused if it is recorded under a name that is too long. -/
lemma run_evaluate_of_long_name {expression user : String} {x : Double}
    (value : Calculator.evaluate expression = .ok x)
    (name : Store.isFileName (historyFile user) = false) (setting : Setting) (folder : Folder) :
    (run setting folder (.evaluate expression ⟨some user, true⟩)).2 =
      .interrupted (.refusal (.store .nameTooLong)) := by
  have hname : Store.isFileName (setting.store folder (some user)).file = false := by
    simp only [Setting.store, Setting.user_some (Store.ne_empty_of_long_name name)]
    exact name
  obtain ⟨next, -, hrecord⟩ :=
    Store.record_of_long_name hname setting.now expression x.display RecordKind.standard.name
  rw [run_evaluate, value]
  simp only [single, conclude, if_true, hrecord]

/-- An expression with a value is not refused if it is not recorded. -/
lemma run_evaluate_of_off {expression : String} {x : Double}
    (value : Calculator.evaluate expression = .ok x) (user : Option String) (setting : Setting)
    (folder : Folder) :
    (run setting folder (.evaluate expression ⟨user, false⟩)).2 = .success (.line x.display) := by
  have hoff := @conclude_of_off ⟨user, false⟩ rfl setting folder expression x.display .standard
  simp only [run_evaluate, value, single, hoff]

end Command

/-- For a user name that is too long a sum has a value, unless it is recorded. -/
theorem answers_differ_for_long_user :
    List.Forall₂ Request.Switched
        [⟨Command.sampleSetting, .evaluate "1+1" ⟨some Store.longUser, true⟩⟩]
        [⟨Command.sampleSetting, .evaluate "1+1" ⟨some Store.longUser, false⟩⟩] ∧
      ((Folder.missing Store.sampleSpare).answers
          [⟨Command.sampleSetting, .evaluate "1+1" ⟨some Store.longUser, true⟩⟩]).map Prod.snd ≠
        ((Folder.missing Store.sampleSpare).answers
          [⟨Command.sampleSetting, .evaluate "1+1" ⟨some Store.longUser, false⟩⟩]).map
            Prod.snd := by
  obtain ⟨x, hvalue, -⟩ := Session.exists_value_sum
  refine ⟨.cons ⟨trivial, rfl⟩ .nil, ?_⟩
  simp only [Folder.answers, List.map_cons, List.map_nil, ne_eq, List.cons.injEq, and_true,
    Command.run_evaluate_of_long_name hvalue Store.isFileName_longUser,
    Command.run_evaluate_of_off hvalue]
  exact fun h => nomatch congrArg Completion.exit h

end Calculator
