import Calculator.CommandLine
import Calculator.Proofs.Command.Listing
import Calculator.Proofs.Interactive.Lines

/-!
# Effects of commands

`Command.Effect` lists everything that a command can do to a folder in which the file of its user
has entries, with the way it ends, and `Command.effect_run` says that nothing else happens: it
leaves the folder as it is, or writes its file, or is refused because the name of the file is too
long. What it makes of the entries is said by `Command.keep`. A command that is not refused succeeds
or fails, unless the console refuses the text with words of the user that the command shows
(`Command.Ends`); clearing a history comes before that text.

Commands for a single calculation are treated as one (`Command.Concludes`), and interactive sessions
by what their calls do (`Session.after_of_has`, `Session.next_of_long_name`).
-/

namespace Calculator

/-! ### Files of entries -/

/-- Whether a file holds entries as they are written. A file that is missing holds none. -/
def Folder.Has (folder : Folder) (file : String) (kept : List Entry) : Prop :=
  folder.get? file = none ∧ kept = [] ∨
    folder.get? file = some (.file (Store.bytesOfEntries kept))

/-- Folders with the same node under the name of a file have the same entries there. -/
lemma Folder.Has.congr {folder other : Folder} {file : String} {kept : List Entry}
    (h : folder.Has file kept) (node : other.get? file = folder.get? file) :
    other.Has file kept := by
  rwa [Folder.Has, node]

namespace Store

/-- The entries of the file are held. -/
lemma holds_of_has {folder : Folder} {user : String} {kept : List Entry}
    (name : isFileName (historyFile user) = true) (has : folder.Has (historyFile user) kept) :
    Holds ⟨folder, user⟩ kept := by
  rcases has with ⟨hnone, rfl⟩ | hfile
  · refine ⟨name, fun hfolder => ?_, ?_⟩
    · cases hnone.symm.trans hfolder
    · simp only [load_of_name ⟨folder, user⟩ name, file, hnone]
  · refine ⟨name, fun hfolder => ?_, ?_⟩
    · cases hfile.symm.trans hfolder
    · rw [load_of_file ⟨folder, user⟩ name hfile]
      exact entriesOfBytes_bytesOfEntries kept

/-- The file has all entries after growing. -/
lemma Grows.has {store next : Store} {kept es : List Entry} (h : store.Grows kept es next)
    (has : store.folder.Has store.file kept) : next.folder.Has store.file (kept ++ es) := by
  cases h with
  | same => rwa [List.append_nil]
  | appended => exact Or.inr (Folder.get?_put_self ..)

end Store

/-! ### Sessions with a history -/

namespace Session

variable {s : Session} {store : Store}

/-- The journal of a session is appended to the file, and the rest of the folder is kept. -/
lemma after_of_has {kept : List Entry} (history : s.history = some store)
    (name : Store.isFileName store.file = true) (has : store.folder.Has store.file kept)
    (calls : List Call) :
    ∃ next, (s.after calls).history = some next ∧ store.Keeps next ∧
      next.folder.Has store.file (kept ++ s.journal calls) := by
  induction calls generalizing s store kept with
  | nil => exact ⟨store, history, .refl store, by rwa [journal, List.append_nil]⟩
  | cons call calls ih =>
    obtain ⟨-, next, hnext, hgrows⟩ := next_of_holds history (Store.holds_of_has name has) call
    have hfile : next.file = store.file := congrArg historyFile hgrows.keeps.user
    have hhas := hgrows.has has
    rw [← hfile] at hhas name
    obtain ⟨last, hlast, hkeeps, hentries⟩ := ih hnext name hhas
    rw [hfile, List.append_assoc] at hentries
    exact ⟨last, hlast, hgrows.keeps.trans hkeeps, hentries⟩

/-- A session whose history has a name that is too long carries out no calculation, or it is refused
for that name and no node is changed. -/
lemma next_of_long_name (history : s.history = some store)
    (name : Store.isFileName store.file = false) (call : Call) :
    ((∀ failure, s.answer call ≠ .error (.store failure)) ∧
      (s.next call).history = some store ∧ s.entries call = []) ∨
    s.answer call = .error (.store .nameTooLong) ∧
      ∃ folder, (s.next call).history = some { store with folder } ∧
        ∀ name, folder.get? name = store.folder.get? name := by
  have hrecord : ∀ c : Calculation, ∃ folder,
      (folder = store.folder ∨ folder = store.folder.make) ∧
        store.record call.now c.equation c.value.display c.kind.name =
          ({ store with folder }, .error .nameTooLong) :=
    fun c => Store.record_of_long_name name ..
  cases s.tells_next call with
  | nothing calculation unchanged reported accepted =>
    refine Or.inl ⟨accepted, unchanged.trans history, ?_⟩
    rw [entries, calculation]
    rfl
  | @recorded c calculation keeps reported =>
    obtain ⟨folder, -, hfolder⟩ := hrecord c
    rw [history] at keeps
    generalize (s.next call).history = history' at keeps
    cases keeps with
    | kept recorded => cases hfolder.symm.trans recorded
  | @refused c failure calculation keeps refusal =>
    obtain ⟨folder, hmade, hfolder⟩ := hrecord c
    rw [history] at keeps
    generalize (s.next call).history = history' at keeps ⊢
    cases keeps with
    | lost refused =>
      obtain ⟨rfl, hfailure⟩ := Prod.mk.inj (hfolder.symm.trans refused)
      cases hfailure
      refine Or.inr ⟨refusal, folder, rfl, fun name => ?_⟩
      rcases hmade with rfl | rfl <;> rfl

/-- A session whose history has a name that is too long carries out no calculation, unless it is
refused. -/
lemma after_of_long_name (history : s.history = some store)
    (name : Store.isFileName store.file = false) {calls : List Call}
    (accepted : s.Accepts calls) :
    (s.after calls).history = some store ∧ s.journal calls = [] := by
  induction calls generalizing s with
  | nil => exact ⟨history, rfl⟩
  | cons call calls ih =>
    rcases next_of_long_name history name call with ⟨-, hnext, hentries⟩ | ⟨hrefused, -⟩
    · obtain ⟨hafter, hjournal⟩ := ih hnext accepted.2
      exact ⟨hafter, by rw [journal, hentries, hjournal]; rfl⟩
    · exact absurd hrefused (accepted.1 _)

/-- Whether the history is that of a user, in a folder where the same stands under every name as in
the given one. -/
def Leaves (user : String) (folder : Folder) (s : Session) : Prop :=
  ∃ other, s.history = some ⟨other, user⟩ ∧ ∀ name, other.get? name = folder.get? name

/-- A session whose history has a name that is too long leaves every node as it is. -/
lemma Leaves.next {user : String} {folder : Folder} (h : s.Leaves user folder)
    (name : Store.isFileName (historyFile user) = false) (call : Call) :
    (s.next call).Leaves user folder := by
  obtain ⟨other, hother, hnodes⟩ := h
  rcases next_of_long_name hother name call with ⟨-, hhistory, -⟩ | ⟨-, next, hhistory, hsame⟩
  · exact ⟨other, hhistory, hnodes⟩
  · exact ⟨next, hhistory, fun name => (hsame name).trans (hnodes name)⟩

end Session

/-! ### What a command does -/

/-- Whether a command is refused by the history. -/
def Exit.isRefused : Exit → Bool
  | .interrupted (.refusal _) => true
  | .success | .failure | .interrupted (.marks _) => false

/-- The file of the user who is meant by a command. -/
def Setting.file (setting : Setting) (command : Command) : String :=
  historyFile (setting.user command.named)

namespace Command

/-- The calculation of a command that carries out a single one, if it has a value. -/
def calculation? : Command → Option Calculation
  | .evaluate expression _ => Calculation.ofExpression? expression
  | .scientific f x _ => Calculation.ofFunction? f x
  | .convert x category source target _ => Calculation.ofConversion? x category source target
  | .preview _ | .units _ | .history .. | .clearHistory _ | .interactive .. => none

/-- Whether the calculations of a command are recorded. -/
def isRecording : Command → Bool
  | .evaluate _ recording | .scientific _ _ recording | .convert _ _ _ _ recording
  | .interactive recording _ => recording.isOn
  | .preview _ | .units _ | .history .. | .clearHistory _ => false

/-- The entries of the calculations that a command carries out. -/
def calculated (now : Moment) : Command → List Entry
  | .interactive _ inputs => (Session.start none).journal (Interactive.calls inputs)
  | command => (command.calculation?.map (·.entry now)).toList

/-- What a command makes of the entries of its file. -/
def keep (now : Moment) (kept : List Entry) : Command → List Entry
  | .clearHistory _ => []
  | command => kept ++ if command.isRecording then command.calculated now else []

/-- Whether a command writes the file of its user. -/
def isWriting : Command → Bool
  | .clearHistory _ => true
  | command => command.isRecording

/-- Whether entries of the category are listed: all, or those of a kind. -/
def IsListed (category : String) : Prop :=
  category = Entry.anyCategory ∨ category ∈ RecordKind.names

instance (category : String) : Decidable (IsListed category) :=
  inferInstanceAs (Decidable (_ ∨ _))

/-- Whether a command names a category of entries that there is none of, or asks for a calculation
that has no value. -/
def Fails : Command → Prop
  | .evaluate expression _ => Calculation.ofExpression? expression = none
  | .scientific f x _ => Calculation.ofFunction? f x = none
  | .convert x category source target _ =>
    Calculation.ofConversion? x category source target = none
  | .history _ _ category => ¬IsListed category
  | .preview _ | .units _ | .clearHistory _ | .interactive .. => False

/-- A command that does not write keeps the entries. -/
lemma keep_of_not_writing {command : Command} (h : command.isWriting = false) (now : Moment)
    (kept : List Entry) : command.keep now kept = kept := by
  cases command with
  | clearHistory user => cases h
  | preview | units | history => exact List.append_nil kept
  | evaluate expression recording | scientific f x recording
  | convert x category source target recording | interactive recording inputs =>
    change recording.isOn = false at h
    simp only [keep, isRecording, h, Bool.false_eq_true, if_false, List.append_nil]

/-- A session that records appends what it calculates. -/
lemma keep_interactive {recording : Recording} (on : recording.isOn = true) (now : Moment)
    (kept : List Entry) (inputs : List Input) :
    keep now kept (.interactive recording inputs) =
      kept ++ calculated now (.interactive recording inputs) := by
  simp only [keep, isRecording, on, if_true]

/-- What a command keeps and records is legible. -/
lemma isLegible_of_mem_keep {kept : List Entry} (h : ∀ e ∈ kept, e.IsLegible) (now : Moment)
    (command : Command) : ∀ e ∈ command.keep now kept, e.IsLegible := by
  have hcalculated : ∀ e ∈ command.calculated now, e.IsLegible := by
    intro e he
    have hsingle : ∀ {calculation : Option Calculation},
        (∀ c, calculation = some c → IsUnmarked c.equation) →
          e ∈ (calculation.map (·.entry now)).toList → e.IsLegible := by
      intro calculation hunmarked hmem
      obtain ⟨c, hc, rfl⟩ := Option.map_eq_some_iff.mp (Option.mem_toList.mp hmem)
      exact Calculation.isLegible_entry (hunmarked c hc) now
    cases command with
    | evaluate => exact hsingle (fun _ => Calculation.isUnmarked_ofExpression?) he
    | scientific => exact hsingle (fun _ => Calculation.isUnmarked_ofFunction?) he
    | convert => exact hsingle (fun _ => Calculation.isUnmarked_ofConversion?) he
    | interactive recording inputs => exact Session.isLegible_of_mem_journal he
    | preview | units | history | clearHistory => cases he
  intro e he
  cases command with
  | clearHistory user => cases he
  | evaluate | preview | scientific | convert | units | history | interactive =>
    rcases List.mem_append.mp he with hkept | hnew
    · exact h e hkept
    · split at hnew
      · exact hcalculated e hnew
      · cases hnew

/-! ### How a command ends -/

/-- The text that a command shows in which words of the user stand, if it shows any. -/
def wording (setting : Setting) : Command → Option String
  | .convert x category source target _ =>
    match Calculator.convert x category source target with
    | .error unit => some (unknownUnit unit)
    | .ok _ => none
  | .history user _ category =>
    some (if IsListed category then title (setting.user user) else invalidCategory category)
  | .clearHistory user => some (cleared (setting.user user))
  | .evaluate .. | .preview _ | .scientific .. | .units _ | .interactive .. => none

/-- How a command ends that is not refused: it succeeds, or it fails and says so, or the console
refuses the words of the user that the command shows. No text is written unless it succeeds. -/
inductive Ends (setting : Setting) (command : Command) : Completion → Prop
  | success {output : Output} (succeeds : ¬command.Fails) : Ends setting command (.success output)
  | failure {items : List ConsoleItem} (fails : command.Fails) :
      Ends setting command ⟨.shown items, .failure⟩
  | unreadable {items : List ConsoleItem} {text : String} {error : MarkError}
      (wording : command.wording setting = some text)
      (refusal : setting.console.refusal? (.ofString text) = some error) :
      Ends setting command ⟨.shown items, .interrupted (.marks error)⟩

namespace Ends

variable {setting : Setting} {command : Command} {completion : Completion}

/-- The command is not refused. -/
lemma isRefused (h : Ends setting command completion) : completion.exit.isRefused = false := by
  cases h <;> rfl

/-- A command that succeeds does not fail. -/
lemma succeeds (h : Ends setting command completion) (hexit : completion.exit = .success) :
    ¬command.Fails := by
  cases h with
  | success succeeds => exact succeeds
  | failure | unreadable => cases hexit

/-- A command that fails writes no text. -/
lemma fails (h : Ends setting command completion) (hexit : completion.exit = .failure) :
    command.Fails ∧ completion.output.text = "" := by
  cases h with
  | failure fails => exact ⟨fails, rfl⟩
  | success | unreadable => cases hexit

/-- A command that is interrupted by the console has shown words of the user, and no text. -/
lemma interrupted (h : Ends setting command completion) {error : MarkError}
    (hexit : completion.exit = .interrupted (.marks error)) :
    (∃ text, command.wording setting = some text ∧
      setting.console.refusal? (.ofString text) = some error) ∧ completion.output.text = "" := by
  cases h with
  | unreadable wording refusal =>
    cases hexit
    exact ⟨⟨_, wording, refusal⟩, rfl⟩
  | success | failure => cases hexit

end Ends

/-- What a command has written that is refused: an interactive session what it writes on the lines
before the one that is refused, and any other command nothing. -/
def HasWritten (setting : Setting) (folder : Folder) (output : Output) : Command → Prop
  | .interactive recording inputs =>
    ∃ before input rest, inputs = before ++ input :: rest ∧
      (run setting folder (.interactive recording before)).2 = .success output ∧
      (run setting folder (.interactive recording (before ++ [input]))).2.exit.isRefused = true
  | .evaluate .. | .preview _ | .scientific .. | .convert .. | .units _ | .history ..
  | .clearHistory _ => output = .empty

/-- What a command does to a folder in which its file has entries, and how it ends: there is nothing
to write, and the folder is left as it is; or its file has the entries that it makes of those, and
no other file is changed; or it is refused because the name of the file is too long. A command that
has written its file succeeds, unless it clears a history. -/
inductive Effect (setting : Setting) (folder : Folder) (kept : List Entry) (command : Command) :
    Folder → Completion → Prop
  | idle {completion : Completion} (ends : Ends setting command completion)
      (nothing : command.keep setting.now kept = kept) :
      Effect setting folder kept command folder completion
  | written {next : Folder} {completion : Completion} (ends : Ends setting command completion)
      (succeeds : ¬command.Fails) (writes : command.isWriting = true)
      (settled : completion.exit = .success ∨ ∃ user, command = .clearHistory user)
      (name : Store.isFileName (setting.file command) = true)
      (file : next.Has (setting.file command) (command.keep setting.now kept))
      (others : ∀ name, name ≠ setting.file command → next.get? name = folder.get? name) :
      Effect setting folder kept command next completion
  | refused {next : Folder} {output : Output}
      (name : Store.isFileName (setting.file command) = false)
      (reads : command.isWriting = false → next = folder)
      (same : ∀ name, next.get? name = folder.get? name)
      (written : command.HasWritten setting folder output) :
      Effect setting folder kept command next
        ⟨output, .interrupted (.refusal (.store .nameTooLong))⟩

/-- A report of an error is shown by a command that fails. -/
lemma ends_say_errorReport {command : Command} (fails : command.Fails) (setting : Setting)
    (source : String) (e : Error) :
    Ends setting command (setting.say (Output.errorReport source e) .failure) := by
  rw [say_errorReport]
  exact .failure fails

/-- A line with words of the user is shown, or the console refuses it. -/
lemma ends_say_line {setting : Setting} {command : Command} {text : String} {exit : Exit}
    (wording : command.wording setting = some text)
    (h : Ends setting command ⟨.shown [.line text], exit⟩) :
    Ends setting command (setting.say [.line text] exit) := by
  rw [setting.say_line]
  cases hrefusal : setting.console.refusal? (.ofString text) with
  | none => exact h
  | some error => exact @Ends.unreadable setting command [] text error wording hrefusal

/-! ### Single calculations -/

/-- What a command for a single calculation does with its value, or the error instead of it. -/
def single {ε : Type} (setting : Setting) (folder : Folder) (recording : Recording)
    (equation : String) (kind : RecordKind) (report : ε → List ConsoleItem) :
    Except ε Double → Folder × Completion
  | .error e => (folder, setting.say (report e) .failure)
  | .ok x => conclude setting folder recording equation x.display kind

/-- An expression is a single calculation. -/
lemma run_evaluate (setting : Setting) (folder : Folder) (expression : String)
    (recording : Recording) :
    run setting folder (.evaluate expression recording) =
      single setting folder recording expression .standard (Output.errorReport expression)
        (Calculator.evaluate expression) := by
  simp only [run]
  cases Calculator.evaluate expression <;> rfl

/-- The application of a function is a single calculation. -/
lemma run_scientific (setting : Setting) (folder : Folder) (f : ScientificFunction) (x : Double)
    (recording : Recording) :
    run setting folder (.scientific f x recording) =
      single setting folder recording (Session.functionText f x) .scientific
        (Output.errorReport (Session.functionText f x)) (f.apply x) := by
  simp only [run]
  cases f.apply x <;> rfl

/-- A conversion is a single calculation. -/
lemma run_convert (setting : Setting) (folder : Folder) (x : Double) (category : Category)
    (source target : String) (recording : Recording) :
    run setting folder (.convert x category source target recording) =
      single setting folder recording (Session.conversionText x source target) .conversion
        (fun unit => [.line (unknownUnit unit)])
        (Calculator.convert x category source target) := by
  simp only [run]
  cases Calculator.convert x category source target <;> rfl

/-- The outcome of a command for a single calculation: it ends without a calculation if there is no
value. -/
inductive Concludes (setting : Setting) (folder : Folder) (recording : Recording)
    (command : Command) : Option Calculation → Folder × Completion → Prop
  | failed {completion : Completion} (ends : Ends setting command completion) :
      Concludes setting folder recording command none (folder, completion)
  | concluded (c : Calculation) :
      Concludes setting folder recording command (some c)
        (conclude setting folder recording c.equation c.value.display c.kind)

variable {setting : Setting} {folder : Folder} {kept : List Entry}

/-- A calculation that is recorded is appended to the file, or the name of the file is too long. -/
lemma effect_conclude {command : Command} {recording : Recording} {c : Calculation}
    (named : command.named = recording.user) (has : folder.Has (setting.file command) kept)
    (succeeds : ¬command.Fails) (writes : command.isWriting = true) (on : recording.isOn = true)
    (keeps : command.keep setting.now kept = kept ++ [c.entry setting.now])
    (nothing : command.HasWritten setting folder .empty) :
    Effect setting folder kept command
      (conclude setting folder recording c.equation c.value.display c.kind).1
      (conclude setting folder recording c.equation c.value.display c.kind).2 := by
  have hfile : setting.file command = (setting.store folder recording.user).file := by
    rw [Setting.file, named]
    rfl
  rw [hfile] at has
  simp only [conclude, on, if_true]
  cases hname : Store.isFileName (setting.store folder recording.user).file with
  | true =>
    have hholds : (setting.store folder recording.user).Holds kept := Store.holds_of_has hname has
    rw [hholds.record]
    refine .written (.success succeeds) succeeds writes (Or.inl rfl) (hfile ▸ hname) ?_
      fun name hne => ?_
    · rw [keeps, hfile]
      exact Or.inr (Folder.get?_put_self ..)
    · exact Folder.get?_put_of_ne _ (hfile ▸ hne) _
  | false =>
    obtain ⟨next, hmade, hrecord⟩ :=
      Store.record_of_long_name hname setting.now c.equation c.value.display c.kind.name
    rw [hrecord]
    refine .refused (hfile ▸ hname) (fun h => ?_) (fun name => ?_) nothing
    · cases writes.symm.trans h
    · rcases hmade with rfl | rfl <;> rfl

/-- A single calculation is written, and recorded if that is asked for. -/
lemma Concludes.effect {command : Command} {recording : Recording}
    {calculation : Option Calculation} {outcome : Folder × Completion}
    (h : Concludes setting folder recording command calculation outcome)
    (named : command.named = recording.user) (has : folder.Has (setting.file command) kept)
    (fails : command.Fails ↔ calculation = none) (writes : command.isWriting = recording.isOn)
    (keeps : command.keep setting.now kept =
      kept ++ if recording.isOn then (calculation.map (·.entry setting.now)).toList else [])
    (nothing : command.HasWritten setting folder .empty) :
    Effect setting folder kept command outcome.1 outcome.2 := by
  cases h with
  | failed ends =>
    refine .idle ends (keeps.trans ?_)
    simp only [Option.map_none, Option.toList_none, ite_self, List.append_nil]
  | concluded c =>
    have hsucceeds : ¬command.Fails := fun h => by cases fails.mp h
    cases hon : recording.isOn with
    | false =>
      rw [conclude_of_off hon]
      exact .idle (.success hsucceeds) (keep_of_not_writing (writes.trans hon) ..)
    | true =>
      rw [hon] at writes keeps
      exact effect_conclude named has hsucceeds writes hon keeps nothing

/-- A single calculation is concluded if it has a value. -/
lemma concludes_single {ε : Type} {command : Command} (value : Except ε Double)
    (recording : Recording) (equation : String) (kind : RecordKind) {report : ε → List ConsoleItem}
    (ends : ∀ e, value = .error e → Ends setting command (setting.say (report e) .failure)) :
    Concludes setting folder recording command (value.toOption.map fun x => ⟨equation, x, kind⟩)
      (single setting folder recording equation kind report value) := by
  cases value with
  | error e => exact .failed (ends e rfl)
  | ok x => exact .concluded ⟨equation, x, kind⟩

/-- An expression is concluded if it has a value. -/
lemma concludes_evaluate (setting : Setting) (folder : Folder) (expression : String)
    (recording : Recording) :
    Concludes setting folder recording (.evaluate expression recording)
      (Calculation.ofExpression? expression)
      (run setting folder (.evaluate expression recording)) := by
  rw [run_evaluate]
  refine concludes_single _ _ _ _ fun e he => ends_say_errorReport ?_ setting expression e
  simp only [Fails, Calculation.ofExpression?, he]
  rfl

/-- The application of a function is concluded if it has a value. -/
lemma concludes_scientific (setting : Setting) (folder : Folder) (f : ScientificFunction)
    (x : Double) (recording : Recording) :
    Concludes setting folder recording (.scientific f x recording) (Calculation.ofFunction? f x)
      (run setting folder (.scientific f x recording)) := by
  rw [run_scientific]
  refine concludes_single _ _ _ _ fun e he => ends_say_errorReport ?_ setting _ e
  simp only [Fails, Calculation.ofFunction?, he]
  rfl

/-- A conversion is concluded if the units are known. -/
lemma concludes_convert (setting : Setting) (folder : Folder) (x : Double) (category : Category)
    (source target : String) (recording : Recording) :
    Concludes setting folder recording (.convert x category source target recording)
      (Calculation.ofConversion? x category source target)
      (run setting folder (.convert x category source target recording)) := by
  rw [run_convert]
  refine concludes_single _ _ _ _ fun unit hunit => ends_say_line ?_ (.failure ?_)
  · simp only [wording, hunit]
  · simp only [Fails, Calculation.ofConversion?, hunit]
    rfl

/-! ### Interactive sessions -/

/-- A session that records has the store of the user. -/
lemma history_session_of_on {recording : Recording} (on : recording.isOn = true)
    (setting : Setting) (folder : Folder) :
    (session setting folder recording).history = some (setting.store folder recording.user) := by
  simp only [session, on]
  rfl

/-- A session that does not record has no history. -/
lemma history_session_of_off {recording : Recording} (off : recording.isOn = false)
    (setting : Setting) (folder : Folder) : (session setting folder recording).history = none := by
  simp only [session, off]
  rfl

/-- The calculations of an interactive session that is not refused are those of its journal. -/
lemma calculated_interactive {recording : Recording} {inputs : List Input}
    (accepted : (session setting folder recording).Accepts (Interactive.calls inputs)) :
    calculated setting.now (.interactive recording inputs) =
      (session setting folder recording).journal (Interactive.calls inputs) :=
  Session.journal_unrecorded accepted

/-- An interactive session that is refused has written what it writes on the lines before. -/
lemma run_interactive_of_breaks {recording : Recording} {inputs before : List Input} {input : Input}
    {failure : StoreFailure}
    (h : Interactive.BreaksAt (session setting folder recording) inputs before input failure) :
    ∃ output, (Command.interactive recording inputs).HasWritten setting folder output ∧
      run setting folder (.interactive recording inputs) =
        (((((session setting folder recording).after (Interactive.calls before)).after
            input.calls).history.map (·.folder)).getD folder,
          ⟨output, .interrupted (.refusal (.store failure))⟩) := by
  obtain ⟨output, hrun⟩ := Interactive.run_of_breaks setting.console h
  obtain ⟨hbefore, hinputs⟩ := hrun (.shown [Interactive.help])
  obtain ⟨rest, hreached⟩ := h.reached
  obtain ⟨_, hline⟩ := Interactive.run_of_breaks setting.console h.line
  refine ⟨Output.shown [Interactive.help] ++ output, ⟨before, input, rest, hreached, ?_, ?_⟩, ?_⟩
  · rw [run_interactive, hbefore]
    rfl
  · rw [run_interactive, (hline _).2]
    rfl
  · rw [run_interactive, hinputs]
    rfl

/-- A session under a name that is too long carries out no calculation, or it is refused for that
name. -/
lemma effect_interactive_of_long_name {recording : Recording} (inputs : List Input)
    (on : recording.isOn = true)
    (name : Store.isFileName (setting.store folder recording.user).file = false) :
    Effect setting folder kept (.interactive recording inputs)
      (run setting folder (.interactive recording inputs)).1
      (run setting folder (.interactive recording inputs)).2 := by
  have hstart := history_session_of_on on setting folder
  have hleaves : ∀ calls, ((session setting folder recording).after calls).Leaves
      (setting.user recording.user) folder := fun calls =>
    Session.after_invariant (P := Session.Leaves (setting.user recording.user) folder)
      (fun _ call h => h.next name call) ⟨folder, hstart, fun _ => rfl⟩ calls
  rcases Interactive.accepts_or_breaks (session setting folder recording) inputs with
    haccepts | ⟨before, input, failure, hbreaks⟩
  · obtain ⟨hafter, hjournal⟩ := Session.after_of_long_name hstart name haccepts
    obtain ⟨output, hrun⟩ := run_interactive_of_accepts haccepts
    rw [hrun, hafter]
    refine .idle (.success not_false) ?_
    rw [keep_interactive on, calculated_interactive haccepts, hjournal, List.append_nil]
  · obtain ⟨output, hwritten, hrun⟩ := run_interactive_of_breaks hbreaks
    obtain ⟨earlier, call, hcalls, hanswer⟩ := hbreaks.refused
    rw [← Session.after_append] at hanswer hrun
    obtain rfl : failure = .nameTooLong := by
      obtain ⟨other, hother, -⟩ := hleaves (Interactive.calls before ++ earlier)
      rcases Session.next_of_long_name hother name call with ⟨haccepted, -⟩ | ⟨hlong, -⟩
      · exact absurd hanswer (haccepted failure)
      · cases hanswer.symm.trans hlong
        rfl
    obtain ⟨next, hnext, hnodes⟩ := hleaves (Interactive.calls before ++ input.calls)
    rw [hrun, hnext]
    exact .refused name (fun h => by cases on.symm.trans h) hnodes hwritten

/-- An interactive session that does not record succeeds and leaves the folder as it is. -/
lemma run_interactive_of_off {recording : Recording} (off : recording.isOn = false)
    (setting : Setting) (folder : Folder) (inputs : List Input) :
    ∃ output, run setting folder (.interactive recording inputs) = (folder, .success output) := by
  have hoff := history_session_of_off off setting folder
  have hafter := Session.after_invariant (P := fun s => s.history = none)
    (fun s call h => (Session.next_of_off h call).2) hoff (Interactive.calls inputs)
  obtain ⟨output, hrun⟩ := run_interactive_of_accepts
    (Session.accepts_of_off hoff (Interactive.calls inputs))
  refine ⟨output, ?_⟩
  rw [hrun, hafter]
  rfl

/-- An interactive session succeeds, unless it records under a name that is too long. -/
lemma effect_interactive {recording : Recording} (inputs : List Input)
    (has : folder.Has (setting.file (.interactive recording inputs)) kept) :
    Effect setting folder kept (.interactive recording inputs)
      (run setting folder (.interactive recording inputs)).1
      (run setting folder (.interactive recording inputs)).2 := by
  cases hon : recording.isOn with
  | false =>
    obtain ⟨output, hrun⟩ := run_interactive_of_off hon setting folder inputs
    rw [hrun]
    exact .idle (.success not_false)
      (@keep_of_not_writing (.interactive recording inputs) hon ..)
  | true =>
    have hstart := history_session_of_on hon setting folder
    cases hname : Store.isFileName (setting.store folder recording.user).file with
    | true =>
      have haccepts := Session.accepts_of_holds hstart (Store.holds_of_has hname has)
        (Interactive.calls inputs)
      obtain ⟨output, hrun⟩ := run_interactive_of_accepts haccepts
      obtain ⟨next, hnext, hkeeps, hhas⟩ := Session.after_of_has hstart hname has
        (Interactive.calls inputs)
      rw [hrun, hnext]
      refine .written (.success not_false) not_false hon (Or.inl rfl) hname ?_ hkeeps.nodes
      rw [keep_interactive hon, calculated_interactive haccepts]
      exact hhas
    | false => exact effect_interactive_of_long_name inputs hon hname

/-! ### Listing and clearing -/

/-- The entries that are listed, the newest first. -/
def selected (kept : List Entry) (term category : String) : List Entry :=
  kept.reverse.filter fun e => e.isMatch term && e.isOf (some category)

/-- Entries that are selected are kept. -/
lemma mem_of_mem_selected {term category : String} {e : Entry}
    (h : e ∈ selected kept term category) : e ∈ kept :=
  List.mem_reverse.mp (List.mem_filter.mp h).1

/-- The entries of the category that match the term are listed. -/
lemma run_history {user : Option String} {term category : String} (listed : IsListed category)
    (name : Store.isFileName (historyFile (setting.user user)) = true)
    (has : folder.Has (historyFile (setting.user user)) kept) :
    run setting folder (.history user term category) =
      (folder, setting.say (listEntries (title (setting.user user))
        (selected kept term category)) .success) := by
  have hholds : (setting.store folder user).Holds kept := Store.holds_of_has name has
  unfold IsListed at listed
  simp only [run, if_pos listed, Store.search, Store.entries, hholds.load]
  rfl

/-- Under a name that is too long there are no entries to list, or listing them is refused. -/
lemma run_history_of_long_name {user : Option String} {term category : String}
    (listed : IsListed category)
    (name : Store.isFileName (historyFile (setting.user user)) = false) :
    (setting.store folder user).isLookedUp = true ∧
        run setting folder (.history user term category) =
          (folder, .success (.shown [noneRecorded])) ∨
      (setting.store folder user).isLookedUp = false ∧
        run setting folder (.history user term category) =
          (folder, .interrupted (.refusal (.store .nameTooLong))) := by
  unfold IsListed at listed
  have hname : Store.isFileName (setting.store folder user).file = false := name
  simp only [run, if_pos listed, Store.search, Store.entries]
  rcases Store.load_cases_of_long_name hname with ⟨hlooked, hload⟩ | ⟨hlooked, hload⟩
  · refine Or.inl ⟨hlooked, ?_⟩
    simp only [hload]
    exact Prod.ext rfl (setting.say_listEntries _ (List.forall_mem_nil _))
  · refine Or.inr ⟨hlooked, ?_⟩
    simp only [hload]

/-- The entries are selected, or the name of the file is too long. -/
lemma effect_history {user : Option String} {term category : String}
    (has : folder.Has (setting.file (.history user term category)) kept)
    (legible : ∀ e ∈ kept, e.IsLegible) :
    Effect setting folder kept (.history user term category)
      (run setting folder (.history user term category)).1
      (run setting folder (.history user term category)).2 := by
  have hkeep := @keep_of_not_writing (.history user term category) rfl setting.now kept
  by_cases hlisted : IsListed category
  · have hsucceeds : ¬Fails (.history user term category) := fun h => h hlisted
    have hwording : wording setting (.history user term category) =
        some (title (setting.user user)) := by
      simp only [wording, if_pos hlisted]
    cases hname : Store.isFileName (historyFile (setting.user user)) with
    | true =>
      rw [run_history hlisted hname has,
        setting.say_listEntries _ fun e he => legible e (mem_of_mem_selected he)]
      refine .idle ?_ hkeep
      split
      · exact .success hsucceeds
      · split
        · exact .success hsucceeds
        · next hrefusal => exact .unreadable hwording hrefusal
    | false =>
      rcases run_history_of_long_name hlisted hname with ⟨-, hrun⟩ | ⟨-, hrun⟩
      · rw [hrun]
        exact .idle (.success hsucceeds) hkeep
      · rw [hrun]
        exact .refused hname (fun _ => rfl) (fun _ => rfl) rfl
  · have hrun : run setting folder (.history user term category) =
        (folder, setting.say [.line (invalidCategory category)] .failure) := if_neg hlisted
    rw [hrun]
    refine .idle (ends_say_line ?_ (.failure hlisted)) hkeep
    simp only [wording, if_neg hlisted]

/-- All entries are dropped, or the name of the file is too long. -/
lemma effect_clearHistory {user : Option String}
    (has : folder.Has (setting.file (.clearHistory user)) kept) :
    Effect setting folder kept (.clearHistory user)
      (run setting folder (.clearHistory user)).1 (run setting folder (.clearHistory user)).2 := by
  cases hname : Store.isFileName (setting.store folder user).file with
  | true =>
    have hholds : (setting.store folder user).Holds kept := Store.holds_of_has hname has
    simp only [run, Store.clear, Store.save_eq [] hname hholds.place]
    exact .written (ends_say_line rfl (.success not_false)) not_false rfl (Or.inr ⟨user, rfl⟩) hname
      (Or.inr (Folder.get?_put_self ..)) fun name hne => Folder.get?_put_of_ne _ hne _
  | false =>
    simp only [run, Store.clear, Store.save_of_long_name [] hname]
    exact .refused hname (fun h => by cases h) (fun _ => rfl) rfl

/-! ### All commands -/

/-- Every command has an effect. -/
theorem effect_run (command : Command) (has : folder.Has (setting.file command) kept)
    (legible : ∀ e ∈ kept, e.IsLegible) :
    Effect setting folder kept command (run setting folder command).1
      (run setting folder command).2 := by
  cases command with
  | evaluate expression recording =>
    exact (concludes_evaluate setting folder expression recording).effect rfl has Iff.rfl rfl rfl
      rfl
  | preview expression =>
    simp only [run]
    cases Calculator.evaluate expression with
    | error e => exact .idle (.success not_false) (keep_of_not_writing rfl ..)
    | ok x => exact .idle (.success not_false) (keep_of_not_writing rfl ..)
  | scientific f x recording =>
    exact (concludes_scientific setting folder f x recording).effect rfl has Iff.rfl rfl rfl rfl
  | convert x category source target recording =>
    exact (concludes_convert setting folder x category source target recording).effect rfl has
      Iff.rfl rfl rfl rfl
  | units category => exact .idle (.success not_false) (keep_of_not_writing rfl ..)
  | history user term category => exact effect_history has legible
  | clearHistory user => exact effect_clearHistory has
  | interactive recording inputs => exact effect_interactive inputs has

/-! ### Answers -/

variable {next : Folder} {command : Command} {completion : Completion}

/-- A command that does not write changes nothing. -/
lemma Effect.unchanged (h : Effect setting folder kept command next completion)
    (hreads : command.isWriting = false) : next = folder := by
  cases h with
  | idle => rfl
  | written ends succeeds writes => cases writes.symm.trans hreads
  | refused name reads => exact reads hreads

/-- A command that is not refused ends in one of the ways, and leaves the folder as it is if it does
not succeed, unless it clears a history. -/
lemma Effect.ends (h : Effect setting folder kept command next completion)
    (accepted : completion.exit.isRefused = false) :
    Ends setting command completion ∧ (completion.exit ≠ .success →
      next = folder ∨ ¬command.Fails ∧ ∃ user, command = .clearHistory user) := by
  cases h with
  | idle ends => exact ⟨ends, fun _ => Or.inl rfl⟩
  | written ends succeeds writes settled =>
    exact ⟨ends, fun h => Or.inr ⟨succeeds, settled.resolve_left h⟩⟩
  | refused => cases accepted

/-- Only a name that is too long is refused, and then no file is changed. -/
lemma Effect.refusal (h : Effect setting folder kept command next completion) {refusal : Refusal}
    (hexit : completion.exit = .interrupted (.refusal refusal)) :
    refusal = .store .nameTooLong ∧ Store.isFileName (setting.file command) = false ∧
      (∀ file, next.get? file = folder.get? file) ∧
        command.HasWritten setting folder completion.output := by
  have hends : Ends setting command completion → False := fun h => by cases h <;> cases hexit
  cases h with
  | idle ends | written ends => exact absurd ends hends
  | refused name reads same written =>
    cases hexit
    exact ⟨rfl, name, same, written⟩

end Command

end Calculator
