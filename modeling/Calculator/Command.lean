import Calculator.Environment
import Calculator.History.Listing
import Calculator.Interactive

/-!
# Commands

The commands of the calculator. A command reads and writes histories in a folder, writes an output and
ends with an exit code. It is interrupted when a history cannot be read or written, or when the console
refuses what is to be shown.
-/

namespace Calculator

/-- Whose history is meant, and whether the calculation is recorded in it. -/
structure Recording where
  user : Option String
  isOn : Bool
deriving DecidableEq, Repr

/-- A command with its arguments. -/
inductive Command where
  | evaluate (expression : String) (recording : Recording)
  | preview (expression : String)
  | scientific (f : ScientificFunction) (x : Double) (recording : Recording)
  | convert (x : Double) (category : Category) (source target : String) (recording : Recording)
  | units (category : Category)
  | history (user : Option String) (term category : String)
  | clearHistory (user : Option String)
  | interactive (recording : Recording) (inputs : List Input)

/-- How a command ends. -/
inductive Exit where
  | success
  /-- The command says why it fails. -/
  | failure
  | interrupted (cause : Interruption)
deriving DecidableEq, Repr

/-- The exit code of a command. -/
def Exit.code : Exit → Nat
  | .success => 0
  | .failure | .interrupted _ => 1

/-- What a command writes, and how it ends. -/
structure Completion where
  output : Output
  exit : Exit
deriving DecidableEq, Repr

namespace Completion

/-- A command that succeeds. -/
def success (output : Output) : Completion := ⟨output, .success⟩

/-- A command that is interrupted before it writes anything. -/
def interrupted (cause : Interruption) : Completion := ⟨.empty, .interrupted cause⟩

end Completion

/-- The command that ends with a reply, in the given way if the reply is not interrupted. -/
def Reply.completion (reply : Reply) (exit : Exit) : Completion :=
  ⟨reply.output, (reply.interruption.map .interrupted).getD exit⟩

/-- The circumstances of a command. -/
structure Setting where
  env : Environment
  now : Moment
  console : Console

namespace Setting

/-- The user who is meant: the one who is named, unless the name is empty, or the default user. -/
def user (setting : Setting) (named : Option String) : String :=
  (named.filter (· ≠ "")).getD setting.env.defaultUser

/-- The store of the user who is meant. -/
def store (setting : Setting) (folder : Folder) (named : Option String) : Store :=
  ⟨folder, setting.user named⟩

/-- A command that shows items and ends in the given way. -/
def say (setting : Setting) (items : List ConsoleItem) (exit : Exit) : Completion :=
  (setting.console.reply items).completion exit

end Setting

namespace Command

/-- Records a calculation if that is asked for, and writes its result. -/
def conclude (setting : Setting) (folder : Folder) (recording : Recording)
    (equation result : String) (kind : RecordKind) : Folder × Completion :=
  if recording.isOn then
    match (setting.store folder recording.user).record setting.now equation result kind.name with
    | (store, .error failure) => (store.folder, .interrupted (.refusal (.store failure)))
    | (store, .ok _) => (store.folder, .success (.line result))
  else (folder, .success (.line result))

/-- What is said of a unit that is not known. -/
def unknownUnit (unit : UnknownUnit) : String := styled "red" unit.message

/-- What is said of a category of entries that there is none of. -/
def invalidCategory (category : String) : String :=
  styled "red" ("Invalid category: " ++ category) ++ ". Choose: all, " ++
    ", ".intercalate RecordKind.names

/-- The title of a user's history. -/
def title (user : String) : String := "History: " ++ user

/-- What is said when the history of a user is cleared. -/
def cleared (user : String) : String := "History cleared for " ++ user

/-- Runs an interactive session on lines of input. -/
def interact (setting : Setting) (folder : Folder) (recording : Recording)
    (inputs : List Input) : Folder × Completion :=
  let store := if recording.isOn then some (setting.store folder recording.user) else none
  let (session, reply) := Interactive.carryOut setting.console (.start store) inputs
  ((session.history.map (·.folder)).getD folder, reply.completion .success)

/-- Runs a command on the folder of the histories. -/
def run (setting : Setting) (folder : Folder) : Command → Folder × Completion
  | .evaluate expression recording =>
    match Calculator.evaluate expression with
    | .error e => (folder, setting.say (Output.errorReport expression e) .failure)
    | .ok x => conclude setting folder recording expression x.display .standard
  | .preview expression =>
    match Calculator.evaluate expression with
    | .error _ => (folder, .success .empty)
    | .ok x => (folder, .success (.line x.display))
  | .scientific f x recording =>
    let label := Session.functionText f x
    match f.apply x with
    | .error e => (folder, setting.say (Output.errorReport label e) .failure)
    | .ok y => conclude setting folder recording label y.display .scientific
  | .convert x category source target recording =>
    match Calculator.convert x category source target with
    | .error unit => (folder, setting.say [.line (unknownUnit unit)] .failure)
    | .ok y =>
      conclude setting folder recording (Session.conversionText x source target) y.display
        .conversion
  | .units category => (folder, .success (.line (" ".intercalate category.unitNames)))
  | .history user term category =>
    if category = Entry.anyCategory ∨ category ∈ RecordKind.names then
      let store := setting.store folder user
      match store.search term (some category) with
      | .error failure => (folder, .interrupted (.refusal (.store failure)))
      | .ok entries => (folder, setting.say (listEntries (title store.user) entries) .success)
    else (folder, setting.say [.line (invalidCategory category)] .failure)
  | .clearHistory user =>
    let store := setting.store folder user
    match store.clear with
    | (next, .error failure) => (next.folder, .interrupted (.refusal (.store failure)))
    | (next, .ok ()) => (next.folder, setting.say [.line (cleared store.user)] .success)
  | .interactive recording inputs => interact setting folder recording inputs

end Command

end Calculator
