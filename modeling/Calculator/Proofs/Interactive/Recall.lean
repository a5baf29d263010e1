import Calculator.Proofs.Interactive.Lines
import Mathlib.Data.List.Induction

/-!
# Expressions in an interactive session

A line of an interactive session leaves nothing behind for the next expression, except that a
recalled memory stands in front of it: otherwise the next expression begins a new equation
(`Interactive.isNew_after`, `Interactive.equation_after_recall`). So an expression is evaluated as
the command for expressions evaluates it, with what stands in front of it
(`Command.interactive_lines`).
-/

namespace Calculator

namespace Output

/-- The line that is written last can be told. -/
lemma line_of_append {a : Output} {x y : String} (h : a ++ line x = a ++ line y) : x = y := by
  have htext : a.text ++ (x ++ "\n") = a.text ++ (y ++ "\n") := congrArg text h
  exact (String.append_left_inj _).mp ((String.append_right_inj _).mp htext)

end Output

/-! ### Expressions -/

namespace Line

/-- The text in small letters. -/
def small (text : String) : String := String.ofList (text.toList.map Char.toLower)

/-- The texts that are read as commands, and the empty text, in small letters. -/
def commandWords : List String :=
  ["", "quit", "exit", "m+", "m-", "mr", "mc", "c", "="] ++
    ScientificFunction.all.map ScientificFunction.name

/-- Whether a text without blanks at its ends is neither empty nor a command. -/
def IsExpression (text : String) : Prop :=
  Text.strip text.toList = text.toList ∧ small text ∉ commandWords

/-- No function has a name that is no command. -/
lemma ofName?_of_not_mem {word : String} (h : word ∉ commandWords) :
    ScientificFunction.ofName? word = none := by
  refine List.find?_eq_none.mpr fun f hf hname => h ?_
  refine List.mem_append_right _ (List.mem_map.mpr ⟨f, hf, ?_⟩)
  exact of_decide_eq_true hname

/-- Such a text is read as an expression. -/
lemma ofText_of_isExpression {text : String} (h : IsExpression text) :
    ofText text = .expression text := by
  obtain ⟨hstrip, hword⟩ := h
  have hname := ofName?_of_not_mem hword
  simp only [commandWords, small, List.cons_append, List.mem_cons, not_or] at hword hname
  unfold ofText
  simp only [hstrip, String.ofList_toList]
  split <;> simp_all

/-- Whether a recalled memory still stands in front of the next expression after the line. -/
def keepsRecall : Line → Bool
  | .blank | .memory .add | .memory .subtract | .memory .clear => true
  | .quit | .memory .recall | .clear | .function _ | .again | .expression _ => false

end Line

namespace Interactive

open Session

/-! ### Recalled memory -/

/-- After a line that neither recalls the memory nor keeps a recall, an equation is begun anew. -/
lemma isNew_after_line {s : Session} {now : Moment} {line : Line}
    (accepted : s.Accepts (line.calls now)) (hkeeps : line.keepsRecall = false)
    (hquit : line ≠ .quit) (hrecall : line ≠ .memory .recall) :
    (s.after (line.calls now)).isNew = true := by
  cases line with
  | blank => cases hkeeps
  | quit => exact absurd rfl hquit
  | memory command =>
    cases command with
    | add | subtract | clear => cases hkeeps
    | _ => exact absurd rfl hrecall
  | clear => rfl
  | function f =>
    rcases apply_cases .tolerant s now f with ⟨-, hnew, -⟩ | ⟨failure, hanswer, -⟩
    · exact hnew
    · exact absurd hanswer (accepted.1 failure)
  | again =>
    rcases calculate_cases .tolerant s now with ⟨-, hnew, -⟩ | ⟨failure, hanswer, -⟩
    · exact hnew
    · exact absurd hanswer (accepted.1 failure)
  | expression text =>
    rcases calculate_cases .tolerant (s.press text) now with ⟨-, hnew, -⟩ | ⟨failure, hanswer, -⟩
    · exact hnew
    · exact absurd hanswer (accepted.2.1 failure)

/-- A line that keeps a recall leaves the equation as it is. -/
lemma equation_after_line {line : Line} (h : line.keepsRecall = true) (s : Session)
    (now : Moment) :
    (s.after (line.calls now)).isNew = s.isNew ∧
      (s.after (line.calls now)).equation = s.equation := by
  cases line with
  | blank => exact ⟨rfl, rfl⟩
  | memory command =>
    cases command with
    | add | subtract | clear => exact ⟨rfl, rfl⟩
    | _ => cases h
  | quit | clear | function | again | expression => cases h

/-- Whether a recalled memory stands in front of the next expression: all lines after the recall
keep it. -/
def IsPending (inputs : List Input) : Prop :=
  ∃ earlier recalling later, inputs = earlier ++ recalling :: later ∧
    recalling.line = .memory .recall ∧ ∀ input ∈ later, input.line.keepsRecall = true

/-- A line that keeps a recall does not end the session. -/
lemma ne_quit_of_keepsRecall {line : Line} (h : line.keepsRecall = true) : line ≠ .quit := by
  rintro rfl
  cases h

/-- Lines that keep a recall leave the equation as it is. -/
lemma equation_after_keeping {inputs : List Input}
    (h : ∀ input ∈ inputs, input.line.keepsRecall = true) (s : Session) :
    (s.after (calls inputs)).isNew = s.isNew ∧
      (s.after (calls inputs)).equation = s.equation := by
  induction inputs generalizing s with
  | nil => exact ⟨rfl, rfl⟩
  | cons input inputs ih =>
    obtain ⟨hline, hlines⟩ := List.forall_mem_cons.mp h
    obtain ⟨hnew, hequation⟩ := equation_after_line hline s input.now
    obtain ⟨hnew', hequation'⟩ := ih hlines (s.after input.calls)
    rw [calls_cons (ne_quit_of_keepsRecall hline), after_append]
    exact ⟨hnew'.trans hnew, hequation'.trans hequation⟩

/-- The recalled memory is the equation that the next expression goes on with. -/
theorem equation_after_recall {earlier later : List Input} {recalling : Input}
    (hearlier : ∀ input ∈ earlier, input.line ≠ .quit)
    (hrecall : recalling.line = .memory .recall)
    (hlater : ∀ input ∈ later, input.line.keepsRecall = true) (s : Session) :
    (s.after (calls (earlier ++ recalling :: later))).isNew = false ∧
      (s.after (calls (earlier ++ recalling :: later))).equation =
        (s.after (calls earlier)).memory.value.display := by
  have hquit : recalling.line ≠ .quit := fun h => by cases hrecall.symm.trans h
  have hcalls : recalling.calls = [⟨recalling.now, .memoryRecall⟩] := by
    rw [Input.calls, hrecall]
    rfl
  rw [calls_append hearlier, calls_cons hquit, after_append, after_append, hcalls]
  exact equation_after_keeping hlater _

/-- Where no recalled memory is pending, the next expression begins a new equation. -/
theorem isNew_after {s : Session} {inputs : List Input} (new : s.isNew = true)
    (hquit : ∀ input ∈ inputs, input.line ≠ .quit) (accepted : s.Accepts (calls inputs))
    (h : ¬IsPending inputs) :
    (s.after (calls inputs)).isNew = true := by
  induction inputs using List.reverseRecOn with
  | nil => exact new
  | append_singleton inputs input ih =>
    obtain ⟨hinputs, hlast⟩ := List.forall_mem_append.mp hquit
    have hinput : input.line ≠ .quit := hlast input (List.mem_singleton.mpr rfl)
    rw [calls_append hinputs, calls_singleton hinput] at accepted ⊢
    obtain ⟨hbefore, hafter⟩ := accepts_append.mp accepted
    rw [after_append]
    cases hkeeps : input.line.keepsRecall with
    | true =>
      have hpending : ¬IsPending inputs := by
        rintro ⟨earlier, recalling, later, rfl, hrecall, hlater⟩
        refine h ⟨earlier, recalling, later ++ [input], by simp, hrecall, fun other hother => ?_⟩
        rcases List.mem_append.mp hother with hother | hother
        · exact hlater other hother
        · rwa [List.mem_singleton.mp hother]
      exact (equation_after_line hkeeps _ input.now).1.trans (ih hinputs hbefore hpending)
    | false =>
      exact isNew_after_line hafter hkeeps hinput fun hrecall =>
        h ⟨inputs, input, [], rfl, hrecall, fun _ hother => absurd hother List.not_mem_nil⟩

end Interactive

/-! ### The command -/

namespace Command

open Session

/-- Whether an interactive session succeeds on lines and writes the output. -/
def Prints (setting : Setting) (folder : Folder) (recording : Recording) (inputs : List Input)
    (output : Output) : Prop :=
  (run setting folder (.interactive recording inputs)).2 = .success output

/-- What stands in front of an expression that follows lines: what the recall has printed that is
pending, or nothing. -/
inductive Front (setting : Setting) (folder : Folder) (recording : Recording) :
    List Input → String → Prop
  | recalled {earlier later : List Input} {recalling : Input} {printed : String}
      {written : Output} (recalls : recalling.line = .memory .recall)
      (keeps : ∀ input ∈ later, input.line.keepsRecall = true)
      (before : Prints setting folder recording earlier written)
      (prints :
        Prints setting folder recording (earlier ++ [recalling]) (written ++ .line printed)) :
      Front setting folder recording (earlier ++ recalling :: later) printed
  | nothing {inputs : List Input} (h : ¬Interactive.IsPending inputs) :
      Front setting folder recording inputs ""

/-- Whether the command for expressions writes the output, whatever its circumstances, unless the
history refuses the calculation. -/
def Evaluates (expression : String) (output : Output) : Prop :=
  ∀ setting folder recording,
    (recording.isOn = false → ∃ completion : Completion,
      ¬completion.IsInterrupted ∧ completion.output = output ∧
        run setting folder (.evaluate expression recording) = (folder, completion)) ∧
    (¬(run setting folder (.evaluate expression recording)).2.IsInterrupted →
      (run setting folder (.evaluate expression recording)).2.output = output)

/-- The command for expressions writes the value or a report of the error. -/
lemma evaluates (expression : String) : Evaluates expression (.ofEvaluation expression) := by
  intro setting folder recording
  simp only [run, Output.ofEvaluation]
  cases hvalue : Calculator.evaluate expression with
  | error e =>
    simp only [say_errorReport]
    refine ⟨fun _ => ⟨_, ?_, rfl, rfl⟩, fun _ => trivial⟩
    rintro ⟨cause, hcause⟩
    cases hcause
  | ok x =>
    refine ⟨fun off => ⟨_, ?_, rfl, conclude_of_off off ..⟩, fun interrupted => ?_⟩
    · rintro ⟨cause, hcause⟩
      cases hcause
    · rcases conclude_cases setting folder recording expression x.display .standard with
        hwritten | ⟨-, failure, hrefused⟩
      · rw [hwritten]
        rfl
      · exact absurd ⟨_, congrArg Completion.exit hrefused⟩ interrupted

variable {setting : Setting} {folder : Folder} {recording : Recording}

/-- What a session writes is what the command writes. -/
lemma prints_of_run {inputs : List Input} {output : Output}
    (h : (Interactive.run setting.console (session setting folder recording)
      (.shown [Interactive.help]) inputs).2 = .written output) :
    Prints setting folder recording inputs output := by
  rw [Prints, run_interactive, h]
  rfl

/-- Unless the history refuses a calculation, what is written at a line stands between what is
written before and after it. -/
lemma prints_of_accepts {before rest : List Input} {input : Input}
    (h : ∀ other ∈ before, other.line ≠ .quit) (hline : input.line ≠ .quit)
    (accepted : (session setting folder recording).Accepts
      (Interactive.calls (before ++ input :: rest))) :
    ∃ written output more,
      (Interactive.step setting.console ((session setting folder recording).after
        (Interactive.calls before)) input.now input.line).2 = .written output ∧
      Prints setting folder recording before written ∧
      Prints setting folder recording (before ++ [input]) (written ++ output) ∧
      Prints setting folder recording (before ++ input :: rest) (written ++ output ++ more) := by
  obtain ⟨earlier, output, later, hstep, hrun⟩ :=
    Interactive.run_line setting.console h hline accepted
  obtain ⟨hbefore, hupto, hall⟩ := hrun (.shown [Interactive.help])
  refine ⟨Output.shown [Interactive.help] ++ earlier, output, later, ?_, prints_of_run hbefore,
    prints_of_run hupto, prints_of_run hall⟩
  rw [hstep]

/-- A line that recalls the memory writes it. -/
lemma step_recall {console : Console} {s : Session} {now : Moment} {line : Line} {output : Output}
    (recalls : line = .memory .recall)
    (h : (Interactive.step console s now line).2 = .written output) :
    output = .line s.memory.value.display := by
  rw [recalls] at h
  exact (congrArg Reply.output h).symm

/-- The equation of an expression that follows lines goes on with what stands in front of it. -/
lemma Front.equation {inputs : List Input} {front : String}
    (h : Front setting folder recording inputs front)
    (hquit : ∀ input ∈ inputs, input.line ≠ .quit)
    (accepted : (session setting folder recording).Accepts (Interactive.calls inputs))
    (text : String) :
    (((session setting folder recording).after (Interactive.calls inputs)).press text).equation =
      front ++ text := by
  cases h with
  | nothing h =>
    have hnew := Interactive.isNew_after rfl hquit accepted h
    simp only [press, withPreview, hnew, if_true, String.empty_append]
  | @recalled earlier later recalling _ written recalls keeps before prints =>
    obtain ⟨hearlier, hrest⟩ := List.forall_mem_append.mp hquit
    obtain ⟨written', output, -, hstep, hbefore, hprints, -⟩ :=
      prints_of_accepts hearlier (List.forall_mem_cons.mp hrest).1 accepted
    rw [step_recall recalls hstep] at hprints
    obtain rfl : written' = written := congrArg Completion.output (hbefore.symm.trans before)
    have hline : front = _ :=
      Output.line_of_append (congrArg Completion.output (prints.symm.trans hprints))
    obtain ⟨hnew, hequation⟩ := Interactive.equation_after_recall hearlier recalls keeps
      (session setting folder recording)
    simp only [press, withPreview, hnew, Bool.false_eq_true, if_false, hequation, hline]

/-- Something stands in front of an expression, if only nothing. -/
lemma exists_front {inputs : List Input} (hquit : ∀ input ∈ inputs, input.line ≠ .quit)
    (accepted : (session setting folder recording).Accepts (Interactive.calls inputs)) :
    ∃ front, Front setting folder recording inputs front := by
  by_cases hpending : Interactive.IsPending inputs
  · obtain ⟨earlier, recalling, later, rfl, hrecall, hkeeps⟩ := hpending
    obtain ⟨hearlier, hquits⟩ := List.forall_mem_append.mp hquit
    obtain ⟨written, output, -, hstep, hbefore, hprints, -⟩ :=
      prints_of_accepts hearlier (List.forall_mem_cons.mp hquits).1 accepted
    rw [step_recall hrecall hstep] at hprints
    exact ⟨_, .recalled hrecall hkeeps hbefore hprints⟩
  · exact ⟨"", .nothing hpending⟩

/-- Lines after the one that ends the session have no effect. Unless the history refuses a
calculation, the session carries out what all lines before that ask for and succeeds, and an
expression is evaluated as the command for expressions evaluates what stands in front of it together
with the expression. -/
theorem interactive_lines (setting : Setting) (folder : Folder) (recording : Recording)
    (inputs : List Input) :
    (∀ before quit rest, inputs = before ++ quit :: rest → quit.line = .quit →
      run setting folder (.interactive recording inputs) =
        run setting folder (.interactive recording before)) ∧
    ((session setting folder recording).Accepts (Interactive.calls inputs) →
      (∃ written, run setting folder (.interactive recording inputs) =
        ((((session setting folder recording).after
          (Interactive.calls inputs)).history.map (·.folder)).getD folder, .success written)) ∧
      ∀ before input rest, inputs = before ++ input :: rest →
        (∀ other ∈ before, other.line ≠ .quit) → Line.IsExpression input.text →
        (∃ front, Front setting folder recording before front) ∧
        ∀ front, Front setting folder recording before front →
          ∃ written output more,
            Prints setting folder recording before written ∧
            Prints setting folder recording (before ++ [input]) (written ++ output) ∧
            Prints setting folder recording inputs (written ++ output ++ more) ∧
            Evaluates (front ++ input.text) output) := by
  refine ⟨fun before quit rest hinputs hquit => ?_, fun accepted => ⟨?_, ?_⟩⟩
  · simp only [run_interactive, hinputs, Interactive.run_append_quit hquit]
  · exact run_interactive_of_accepts accepted
  · rintro before input rest rfl hquit hexpression
    have htext : input.line = .expression input.text := by
      rw [Input.line, Line.ofText_of_isExpression hexpression]
    have hline : input.line ≠ .quit := fun h => by cases htext.symm.trans h
    have hsplit := accepted
    rw [Interactive.calls_append hquit, Interactive.calls_cons hline, accepts_append,
      accepts_append, Input.calls, htext] at hsplit
    obtain ⟨hbefore, hcalls, -⟩ := hsplit
    refine ⟨exists_front hquit hbefore, fun front hfront => ?_⟩
    obtain ⟨written, output, more, hstep, hprints⟩ := prints_of_accepts hquit hline accepted
    rw [htext, Interactive.step_expression hcalls, hfront.equation hquit hbefore input.text]
      at hstep
    cases hstep
    exact ⟨written, _, more, hprints.1, hprints.2.1, hprints.2.2, evaluates _⟩

/-- Lines of input, all at one moment. -/
def sampleInputs (lines : List String) : List Input := lines.map (Input.mk Store.sampleMoment)

/-- Lines that recall a sum, then double it, and go on after the end. -/
def sampleLines : List String := ["2+3", "M+", "MR", "", "mc", "*2", "Quit", "1"]

/-- In a folder that is missing at first the recalled sum stands in front of the next expression,
and what follows the end has no effect. -/
theorem interactive_lines_sample :
    (session sampleSetting (.missing Store.sampleSpare) ⟨none, true⟩).Accepts
        (Interactive.calls (sampleInputs sampleLines)) ∧
      Front sampleSetting (.missing Store.sampleSpare) ⟨none, true⟩
        (sampleInputs ["2+3", "M+", "MR", "", "mc"]) "5" ∧
      run sampleSetting (.missing Store.sampleSpare)
          (.interactive ⟨none, true⟩ (sampleInputs sampleLines)) =
        run sampleSetting (.missing Store.sampleSpare)
          (.interactive ⟨none, true⟩ (sampleInputs ["2+3", "M+", "MR", "", "mc", "*2"])) ∧
      ∃ written output more,
        Prints sampleSetting (.missing Store.sampleSpare) ⟨none, true⟩ (sampleInputs sampleLines)
          (written ++ output ++ more) ∧
        Evaluates "5*2" output := by
  have hholds : Store.Holds ⟨.missing Store.sampleSpare, "tester"⟩ [] :=
    Store.holds_missing _ (by decide +kernel)
  have haccepts : (session sampleSetting (.missing Store.sampleSpare) ⟨none, true⟩).Accepts
      (Interactive.calls (sampleInputs sampleLines)) :=
    accepts_of_holds rfl hholds _
  have hfront : Front sampleSetting (.missing Store.sampleSpare) ⟨none, true⟩
      (sampleInputs ["2+3", "M+", "MR", "", "mc"]) "5" :=
    @Front.recalled sampleSetting (.missing Store.sampleSpare) ⟨none, true⟩
      (sampleInputs ["2+3", "M+"]) (sampleInputs ["", "mc"]) ⟨Store.sampleMoment, "MR"⟩ "5"
      (.shown [Interactive.help] ++ .line "5" ++ .shown [.line "  [dim]memory = 5[/dim]"])
      (by decide +kernel) (by decide +kernel) (by unfold Prints; decide +kernel)
      (by unfold Prints; decide +kernel)
  obtain ⟨hquit, hlines⟩ := interactive_lines sampleSetting (.missing Store.sampleSpare)
    ⟨none, true⟩ (sampleInputs sampleLines)
  obtain ⟨written, output, more, -, -, hprints, hevaluates⟩ :=
    ((hlines haccepts).2 (sampleInputs ["2+3", "M+", "MR", "", "mc"]) ⟨Store.sampleMoment, "*2"⟩
      (sampleInputs ["Quit", "1"]) rfl (by decide +kernel)
      (by unfold Line.IsExpression; decide +kernel)).2 "5" hfront
  exact ⟨haccepts, hfront, hquit _ ⟨Store.sampleMoment, "Quit"⟩ (sampleInputs ["1"]) rfl
    (by decide +kernel), written, output, more, hprints, hevaluates⟩

end Command

end Calculator
