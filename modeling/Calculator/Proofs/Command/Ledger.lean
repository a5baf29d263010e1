import Calculator.Proofs.Command.Effects
import Mathlib.Data.List.Induction

/-!
# Runs of commands

Commands are run one after the other in a folder that is missing at first. A `Ledger` keeps beside
the folder a log of every file: the entries of the calculations that were carried out and recorded
under a user name with that file since it was last cleared. After any run the files hold what the
log says (`Ledger.Balanced`), and a next command answers by it (`Ledger.Answers`).

A command that does not succeed leaves every file as it was and writes no text, with two exceptions:
an interactive session has written what the lines before the refused one write, and a history is
cleared before the console refuses the name of its user.
-/

namespace Calculator

/-! ### Requests and ledgers -/

/-- A command with its circumstances. -/
structure Request where
  setting : Setting
  command : Command

/-- The file of the user who is meant by a request. -/
def Request.file (request : Request) : String := request.setting.file request.command

/-- A name that is too long is not empty. -/
lemma Store.ne_empty_of_long_name {user : String} (name : isFileName (historyFile user) = false) :
    user ≠ "" := by
  rintro rfl
  revert name
  decide +kernel

/-- A user who is named is meant. -/
lemma Setting.user_some {name : String} (h : name ≠ "") (setting : Setting) :
    setting.user (some name) = name := by
  simp only [user, Option.filter, h, ne_eq, not_false_eq_true, decide_true, if_true]
  rfl

/-- A folder, and for every file name the entries that are recorded there. -/
structure Ledger where
  folder : Folder
  log : String → List Entry

namespace Ledger

/-- A missing folder and nothing recorded. -/
def start (spare : Nat) : Ledger := ⟨.missing spare, fun _ => []⟩

/-- The ledger after a request. Nothing is recorded if the history refuses the request. -/
def next (ledger : Ledger) (request : Request) : Ledger :=
  let (folder, completion) := request.command.run request.setting ledger.folder
  if completion.exit.isRefused then ⟨folder, ledger.log⟩
  else
    { folder
      log := fun file =>
        if file = request.file then request.command.keep request.setting.now (ledger.log file)
        else ledger.log file }

/-- The answer to a request. -/
def answer (ledger : Ledger) (request : Request) : Completion :=
  (request.command.run request.setting ledger.folder).2

/-- The ledger after requests, one after the other, from a missing folder on. -/
def after (spare : Nat) (requests : List Request) : Ledger := requests.foldl next (start spare)

/-- The ledger after one more request. -/
lemma after_append_singleton (spare : Nat) (requests : List Request) (request : Request) :
    after spare (requests ++ [request]) = (after spare requests).next request := by
  simp only [after, List.foldl_append, List.foldl_cons, List.foldl_nil]

/-- Every file has the entries that are recorded for it, all of which are legible, and there is no
file whose name is too long. -/
structure Balanced (ledger : Ledger) : Prop where
  files : ∀ file, ledger.folder.Has file (ledger.log file)
  names : ∀ file, Store.isFileName file = false → ledger.folder.get? file = none
  legible : ∀ file, ∀ e ∈ ledger.log file, e.IsLegible

/-- The folder of the next ledger is that of the run. -/
lemma folder_next (ledger : Ledger) (request : Request) :
    (ledger.next request).folder = (request.command.run request.setting ledger.folder).1 := by
  unfold next
  rcases request.command.run request.setting ledger.folder with ⟨folder, completion⟩
  cases hrefused : completion.exit.isRefused <;> simp only [hrefused] <;> rfl

/-- A request whose command keeps the entries of its file keeps the log. -/
lemma log_of_keep {ledger : Ledger} {request : Request}
    (nothing : request.command.keep request.setting.now (ledger.log request.file) =
      ledger.log request.file) :
    (fun file => if file = request.file then
      request.command.keep request.setting.now (ledger.log file) else ledger.log file) =
        ledger.log := by
  funext file
  split
  · next hfile => rw [hfile, nothing]
  · rfl

/-- Every request keeps the balance. -/
lemma Balanced.next {ledger : Ledger} (h : ledger.Balanced) (request : Request) :
    (ledger.next request).Balanced := by
  have heffect := request.command.effect_run (h.files request.file) (h.legible request.file)
  unfold Ledger.next
  generalize request.command.run request.setting ledger.folder = outcome at heffect ⊢
  obtain ⟨folder, completion⟩ := outcome
  cases heffect with
  | idle ends nothing =>
    simp only [log_of_keep nothing, ite_self]
    exact h
  | written ends succeeds writes settled name file others =>
    simp only [ends.isRefused, Bool.false_eq_true, if_false]
    refine ⟨fun other => ?_, fun other hother => ?_, fun other e he => ?_⟩
    · by_cases hfile : other = request.file
      · simp only [hfile, if_true]
        exact file
      · simp only [hfile, if_false]
        exact (h.files other).congr (others other hfile)
    · have hfile : other ≠ request.file := by
        rintro rfl
        cases name.symm.trans hother
      exact (others other hfile).trans (h.names other hother)
    · simp only at he
      split at he
      · exact Command.isLegible_of_mem_keep (h.legible other) request.setting.now
          request.command e he
      · exact h.legible other e he
  | refused name reads same written =>
    exact ⟨fun file => (h.files file).congr (same file),
      fun file hfile => (same file).trans (h.names file hfile), h.legible⟩

/-- Nothing is recorded under a name that is too long. -/
lemma Balanced.log_eq_nil {ledger : Ledger} (h : ledger.Balanced) {file : String}
    (name : Store.isFileName file = false) : ledger.log file = [] := by
  rcases h.files file with ⟨-, hlog⟩ | hfile
  · exact hlog
  · cases (h.names file name).symm.trans hfile

/-- The ledger is balanced at first. -/
lemma balanced_start (spare : Nat) : (start spare).Balanced :=
  ⟨fun _ => Or.inl ⟨rfl, rfl⟩, fun _ _ => rfl, fun _ => List.forall_mem_nil _⟩

/-- The ledger is balanced after any requests. -/
lemma balanced_after (spare : Nat) (requests : List Request) : (after spare requests).Balanced := by
  induction requests using List.reverseRecOn with
  | nil => exact balanced_start spare
  | append_singleton requests request ih =>
    rw [after_append_singleton]
    exact ih.next request

/-- The answer to a request by a ledger. A command that succeeds has nothing to fail for. One that
fails writes no text and leaves the folder as it was, as every command does that does not write. It
is interrupted by the console only if that refuses the words of the user that the command shows, and
then no text is written either, and the folder is as it was unless a history was cleared. It is
refused only for a name that is too long, and then no file is changed, and it has written nothing,
or, as an interactive session, what the lines before the refused one write.

The entries that are recorded for the file of the user are listed, the newest first, if they are
selected, unless the console refuses their title. Under a name that is too long there are none, or
this is refused if the name is not looked up. -/
structure Answers (ledger : Ledger) (request : Request) : Prop where
  success : (ledger.answer request).exit = .success → ¬request.command.Fails
  failure : (ledger.answer request).exit = .failure →
    request.command.Fails ∧ (ledger.answer request).output.text = "" ∧
      (ledger.next request).folder = ledger.folder
  unreadable : ∀ error, (ledger.answer request).exit = .interrupted (.marks error) →
    (∃ text, request.command.wording request.setting = some text ∧
      request.setting.console.refusal? (.ofString text) = some error) ∧
    (ledger.answer request).output.text = "" ∧
    ((ledger.next request).folder = ledger.folder ∨
      ∃ user, request.command = .clearHistory user)
  refused : ∀ refusal, (ledger.answer request).exit = .interrupted (.refusal refusal) →
    refusal = .store .nameTooLong ∧ Store.isFileName request.file = false ∧
      (∀ file, (ledger.next request).folder.get? file = ledger.folder.get? file) ∧
      request.command.HasWritten request.setting ledger.folder (ledger.answer request).output
  reads : request.command.isWriting = false → (ledger.next request).folder = ledger.folder
  lists : ∀ user term category, request.command = .history user term category →
    Command.IsListed category → Store.isFileName request.file = true →
      ledger.answer request =
        if Command.selected (ledger.log request.file) term category = [] then
          .success (.shown [.line "[yellow]No calculations recorded.[/yellow]"])
        else match request.setting.console.refusal?
            (.ofString ("History: " ++ request.setting.user user)) with
          | none =>
            .success (.shown
              [.line "",
                .table {
                  title := "History: " ++ request.setting.user user
                  columns := ["When", "Category", "Equation", "Result"]
                  rows := (Command.selected (ledger.log request.file) term category).map
                    Entry.row },
                .line ""])
          | some error => ⟨.shown [.line ""], .interrupted (.marks error)⟩
  unlisted : ∀ user term category, request.command = .history user term category →
    Command.IsListed category → Store.isFileName request.file = false →
      ledger.answer request =
        if Store.nameLength request.file ≤ ledger.folder.longestName then
          .success (.shown [.line "[yellow]No calculations recorded.[/yellow]"])
        else .interrupted (.refusal (.store .nameTooLong))

/-- A request has an effect on a balanced ledger. -/
lemma Balanced.effect {ledger : Ledger} (h : ledger.Balanced) (request : Request) :
    Command.Effect request.setting ledger.folder (ledger.log request.file) request.command
      (ledger.next request).folder (ledger.answer request) := by
  rw [folder_next]
  exact request.command.effect_run (h.files request.file) (h.legible request.file)

/-- A balanced ledger answers every request. -/
lemma Balanced.answers {ledger : Ledger} (h : ledger.Balanced) (request : Request) :
    ledger.Answers request := by
  obtain ⟨setting, command⟩ := request
  have hlegible := h.legible (setting.file command)
  have heffect := h.effect ⟨setting, command⟩
  refine ⟨fun hexit => ?_, fun hexit => ?_, fun error hexit => ?_, fun refusal => heffect.refusal,
    heffect.unchanged, ?_, ?_⟩
  · obtain ⟨hends, -⟩ := heffect.ends (by rw [hexit]; rfl)
    exact hends.succeeds hexit
  · obtain ⟨hends, hfolder⟩ := heffect.ends (by rw [hexit]; rfl)
    obtain ⟨hfails, htext⟩ := hends.fails hexit
    refine ⟨hfails, htext, (hfolder fun h => nomatch hexit.symm.trans h).resolve_right ?_⟩
    exact fun h => h.1 hfails
  · obtain ⟨hends, hfolder⟩ := heffect.ends (by rw [hexit]; rfl)
    obtain ⟨hwording, htext⟩ := hends.interrupted hexit
    exact ⟨hwording, htext, (hfolder fun h => nomatch hexit.symm.trans h).imp_right And.right⟩
  · rintro user term category rfl hlisted hname
    have hrun := @Command.run_history setting ledger.folder _ user term category hlisted hname
      (h.files _)
    refine (congrArg Prod.snd hrun).trans (setting.say_listEntries _ fun e he => ?_)
    exact hlegible e (Command.mem_of_mem_selected he)
  · rintro user term category rfl hlisted hname
    rcases @Command.run_history_of_long_name setting ledger.folder user term category
      hlisted hname with ⟨hlooked, hrun⟩ | ⟨hlooked, hrun⟩
    · refine (congrArg Prod.snd hrun).trans (if_pos ?_).symm
      exact of_decide_eq_true hlooked
    · refine (congrArg Prod.snd hrun).trans (if_neg ?_).symm
      exact of_decide_eq_false hlooked

/-- After any requests on a folder that is missing at first, every file holds what is recorded for
it, which is what the store of its users loads, and a next request is answered by that. -/
theorem commands_run (spare : Nat) (requests : List Request) :
    (after spare requests).Balanced ∧
      (∀ user, Store.isFileName (historyFile user) = true →
        Store.load ⟨(after spare requests).folder, user⟩ =
          .ok ((after spare requests).log (historyFile user))) ∧
      ∀ request, (after spare requests).Answers request :=
  have hbalanced := balanced_after spare requests
  ⟨hbalanced, fun _ hname => (Store.holds_of_has hname (hbalanced.files _)).load,
    hbalanced.answers⟩

/-- A sum that is recorded is kept, a quotient without a value is not. -/
example :
    ((after Store.sampleSpare [⟨Command.sampleSetting, .evaluate "2+3" ⟨none, true⟩⟩,
      ⟨Command.sampleSetting, .evaluate "1/0" ⟨none, true⟩⟩]).log "tester_history.json").map
        (·.result) = [CodeUnits.ofString "5"] := by
  decide +kernel

/-- A history is cleared although the console refuses the name of its user. -/
example :
    Command.run ⟨[], Store.sampleMoment, .strict⟩ (.made [("__x__history.json", .file [])])
        (.clearHistory (some "[/x]")) =
      (.made [("__x__history.json", .file (Store.bytesOfEntries []))],
        .interrupted (.marks ⟨"mark without another"⟩)) := by
  decide +kernel

/-- Once a history is cleared, no longer names are looked up than those of files. -/
lemma longestName_clearHistory (ledger : Ledger) (setting : Setting) (user : Option String) :
    (ledger.next ⟨setting, .clearHistory user⟩).folder.longestName = longestFileName := by
  rw [folder_next]
  simp only [Command.run, Store.clear]
  rcases Store.save_cases (setting.store ledger.folder user) [] with
    ⟨-, -, hsave⟩ | ⟨failure, hsave⟩
  · rw [hsave]
    rfl
  · rw [hsave]
    rfl

/-- After a history was cleared, nothing is recorded for a user whose name is too long, but listing
the history of that user is refused. -/
lemma listing_refused {user term category : String}
    (name : Store.isFileName (historyFile user) = false) (listed : Command.IsListed category)
    (spare : Nat) (setting : Setting) (other : Option String) :
    (after spare [⟨setting, .clearHistory other⟩]).log (historyFile user) = [] ∧
      (after spare [⟨setting, .clearHistory other⟩]).answer
          ⟨setting, .history (some user) term category⟩ =
        .interrupted (.refusal (.store .nameTooLong)) := by
  have hbalanced := balanced_after spare [⟨setting, .clearHistory other⟩]
  have hname : Store.isFileName (historyFile (setting.user (some user))) = false := by
    simp only [Setting.user_some (Store.ne_empty_of_long_name name), name]
  have hlongest : (after spare [⟨setting, .clearHistory other⟩]).folder.longestName =
      longestFileName := by
    rw [← List.nil_append [_], after_append_singleton]
    exact longestName_clearHistory _ setting other
  have hunlisted := (hbalanced.answers ⟨setting, .history (some user) term category⟩).unlisted
    (some user) term category rfl listed hname
  refine ⟨hbalanced.log_eq_nil name, hunlisted.trans (if_neg ?_)⟩
  rw [hlongest]
  exact of_decide_eq_false hname

/-- After the history of a user was cleared, listing that of a user whose name is too long is
refused, although nothing is recorded there. -/
theorem listing_refused_for_long_user :
    (after Store.sampleSpare [⟨Command.sampleSetting, .clearHistory (some "tester")⟩]).log
        (historyFile Store.longUser) = [] ∧
      (after Store.sampleSpare [⟨Command.sampleSetting, .clearHistory (some "tester")⟩]).answer
          ⟨Command.sampleSetting, .history (some Store.longUser) "" Entry.anyCategory⟩ ≠
        .success (.shown [.line "[yellow]No calculations recorded.[/yellow]"]) := by
  obtain ⟨hlog, hrefused⟩ := listing_refused Store.isFileName_longUser (Or.inl rfl)
    Store.sampleSpare Command.sampleSetting (some "tester")
  refine ⟨hlog, ?_⟩
  rw [hrefused]
  intro hlisted
  cases hlisted

end Ledger

end Calculator
