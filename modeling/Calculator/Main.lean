import Calculator.CommandLine
import Std.Time.DateTime.Timestamp

/-!
# The program

The outer layer: it reads the arguments, the environment, the clock and the history file, runs the
command, writes the history file if it has changed, and prints. Marks of styles are printed as they are,
so nothing is refused on this console.
-/

namespace Calculator

namespace Program

/-- The present moment in universal time. -/
def now : IO (Option Moment) :=
  return Moment.ofUnixSeconds? (← Std.Time.Timestamp.now).toSecondsSinceUnixEpoch.val.toNat

/-- The environment variables that matter. -/
def environment : IO Environment := do
  let names := [Environment.homeVariable, Environment.userVariable, "USER", "HOME"]
  names.filterMapM fun name => return (← IO.getEnv name).map fun value => (name, value)

/-- The greatest number of bytes of a path. -/
def longestPath : Nat := 4095

/-- The folder with the history file of a name, if it can be read. -/
def load (root name : String) : IO Folder := do
  let missing : Folder := .missing (longestPath - (root.utf8ByteSize + 1 + longestFileName))
  try
    let bytes ← IO.FS.readBinFile (root ++ "/" ++ name)
    return missing.put name (.file bytes.toList)
  catch _ => return missing

/-- Writes the history file of a name if it has changed. -/
def save (root name : String) (before after : Folder) : IO Unit := do
  match after.get? name with
  | some (.file bytes) =>
    if before.get? name ≠ some (.file bytes) then
      IO.FS.createDirAll root
      IO.FS.writeBinFile (root ++ "/" ++ name) ⟨bytes.toArray⟩
  | _ => return

/-- Prints an item of the console. -/
def printItem : ConsoleItem → IO Unit
  | .line text | .verbatim text => IO.eprintln text
  | .table table => do
    IO.eprintln table.title
    for row in table.columns :: table.rows.map (·.map CodeUnits.toString) do
      IO.eprintln ("  ".intercalate row)

/-- Prints an output. -/
def print (output : Output) : IO Unit := do
  IO.print output.text
  (← IO.getStdout).flush
  output.console.forM printItem

/-- Says what has interrupted a command. -/
def printInterruption : Interruption → IO Unit
  | .refusal _ => IO.eprintln "The history cannot be read or written."
  | .marks error => IO.eprintln error.message

/-- Runs an interactive session on the lines of the input, each with its own moment. -/
partial def interact (root name : String) (s : Session) : IO UInt32 := do
  IO.eprint "calc> "
  let line ← (← IO.getStdin).getLine
  if line.isEmpty then return 0
  let some now ← now | do
    IO.eprintln "The clock is out of range."
    return 1
  let input : Input := ⟨now, line⟩
  if input.line = .quit then return 0
  let (next, reply) := Interactive.step .tolerant s input.now input.line
  match s.history, next.history with
  | some before, some after => save root name before.folder after.folder
  | _, _ => pure ()
  print reply.output
  match reply.interruption with
  | none => interact root name next
  | some cause =>
    printInterruption cause
    return 1

/-- Runs a command. -/
def run (command : Command) : IO UInt32 := do
  let env ← environment
  let homes : Homes := ⟨(env.lookup "HOME").getD "/", []⟩
  match env.historyRoot homes, ← now with
  | .error e, _ =>
    IO.eprintln e.message
    return 1
  | _, none =>
    IO.eprintln "The clock is out of range."
    return 1
  | .ok root, some now =>
    let setting : Setting := ⟨env, now, .tolerant⟩
    let name := historyFile (setting.user command.named)
    let folder ← load root.text name
    match command with
    | .interactive recording _ =>
      printItem Interactive.help
      let store := if recording.isOn then some (setting.store folder recording.user) else none
      interact root.text name (.start store)
    | command =>
      let (after, completion) := command.run setting folder
      save root.text name folder after
      print completion.output
      match completion.exit with
      | .interrupted cause => printInterruption cause
      | _ => pure ()
      return completion.exit.code.toUInt32

end Program

end Calculator

/-- Runs the command of the arguments. -/
def main (arguments : List String) : IO UInt32 :=
  match Calculator.CommandLine.read arguments with
  | .ok command => Calculator.Program.run command
  | .error refusal => do
    IO.eprintln refusal.message
    return 2
