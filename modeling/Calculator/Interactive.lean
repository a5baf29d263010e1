import Calculator.Console
import Calculator.Session
import Calculator.Text.Blank

/-!
# Interactive sessions

A session that is driven by lines of input. A line is a command for the memory, the name of a function,
`C`, `=` to calculate once more, or an expression; blank lines are skipped, and `quit` or `exit` ends
the session. It is also interrupted when the history refuses a calculation or the console a text; what
was written before stays written.
-/

namespace Calculator

/-! ### Output -/

/-- What is written: the text of the output and what is shown on the console. -/
structure Output where
  text : String
  console : List ConsoleItem
deriving DecidableEq, Repr

namespace Output

/-- Nothing is written. -/
def empty : Output := ⟨"", []⟩

/-- A line of the output. -/
def line (text : String) : Output := ⟨text ++ "\n", []⟩

/-- Items shown on the console. -/
def shown (items : List ConsoleItem) : Output := ⟨"", items⟩

/-- One output after another. -/
def append (a b : Output) : Output := ⟨a.text ++ b.text, a.console ++ b.console⟩

instance : Append Output := ⟨append⟩

/-- The message of an error. -/
def errorLine (e : Error) : ConsoleItem := .line (styled "red" "Error:" ++ " " ++ e.message)

/-- The message of an error, and the source with a caret if the error has a position. -/
def errorReport (source : String) (e : Error) : List ConsoleItem :=
  match e.position with
  | none => [errorLine e]
  | some _ => [errorLine e, .verbatim (e.caretLine source)]

end Output

/-! ### Replies -/

/-- What interrupts a command. -/
inductive Interruption where
  /-- An operation is refused. -/
  | refusal (refusal : Refusal)
  /-- A text is refused by the console. -/
  | marks (error : MarkError)
deriving DecidableEq, Repr

/-- What is written, and what interrupts it. -/
structure Reply where
  output : Output
  interruption : Option Interruption
deriving DecidableEq, Repr

namespace Reply

/-- An output that is not interrupted. -/
def written (output : Output) : Reply := ⟨output, none⟩

/-- An interruption before anything is written. -/
def interrupted (cause : Interruption) : Reply := ⟨.empty, some cause⟩

end Reply

/-- Items shown on a console. -/
def Console.reply (console : Console) (items : List ConsoleItem) : Reply :=
  let (shown, error) := console.print items
  ⟨.shown shown, error.map .marks⟩

/-! ### Lines -/

/-- A command for the memory. -/
inductive MemoryCommand where
  | add
  | subtract
  | recall
  | clear
deriving DecidableEq, Repr

/-- What a line asks for. -/
inductive Line where
  /-- Nothing. -/
  | blank
  /-- To end the session. -/
  | quit
  | memory (command : MemoryCommand)
  | clear
  | function (f : ScientificFunction)
  /-- To calculate the equation once more. -/
  | again
  | expression (text : String)
deriving DecidableEq, Repr

namespace Line

/-- What a line asks for, blanks at its ends apart. Letters of commands are of either case; no letter
beyond ASCII is the other case of one of them. -/
def ofText (text : String) : Line :=
  let stripped := String.ofList (Text.strip text.toList)
  let small := String.ofList (stripped.toList.map Char.toLower)
  match small with
  | "" => .blank
  | "quit" | "exit" => .quit
  | "m+" => .memory .add
  | "m-" => .memory .subtract
  | "mr" => .memory .recall
  | "mc" => .memory .clear
  | "c" => .clear
  | "=" => .again
  | _ =>
    match ScientificFunction.ofName? small with
    | some f => .function f
    | none => .expression stripped

end Line

/-- A line of input, and the moment at which it is carried out. -/
structure Input where
  now : Moment
  text : String

/-- What a line of input asks for. -/
@[irreducible] def Input.line (input : Input) : Line := .ofText input.text

/-! ### The session -/

namespace Interactive

/-- What is shown first. -/
def help : ConsoleItem :=
  .line (styled "dim" ("Type an expression to evaluate it. Commands: " ++
    "M+ M- MR MC, sin cos tan sqrt log, C (clear), quit"))

/-- The memory as it is shown. -/
def memoryLine (s : Session) : ConsoleItem :=
  .line ("  " ++ styled "dim" ("memory = " ++ s.memory.value.display))

/-- The reply after the equation is calculated: the display, or a report of the error. -/
def calculate (console : Console) (s : Session) (now : Moment) : Session × Reply :=
  match s.submit now with
  | (next, .error refusal) => (next, .interrupted (.refusal refusal))
  | (next, .ok (.result (.error e))) => (next, console.reply (Output.errorReport s.equation e))
  | (next, .ok _) => (next, .written (.line next.display))

/-- The reply after a function is applied: the display, or the message of the error. -/
def apply (console : Console) (s : Session) (now : Moment) (f : ScientificFunction) :
    Session × Reply :=
  match s.applyFunction now f with
  | (next, .error refusal) => (next, .interrupted (.refusal refusal))
  | (next, .ok (.result (.error e))) => (next, console.reply [Output.errorLine e])
  | (next, .ok _) => (next, .written (.line next.display))

/-- The reply after a command for the memory: the memory, or the display after a recall. -/
def remember (console : Console) (s : Session) : MemoryCommand → Session × Reply
  | .add => (s.memoryAdd, console.reply [memoryLine s.memoryAdd])
  | .subtract => (s.memorySubtract, console.reply [memoryLine s.memorySubtract])
  | .clear => (s.memoryClear, console.reply [memoryLine s.memoryClear])
  | .recall => (s.memoryRecall, .written (.line s.memoryRecall.display))

/-- Carries out a line that does not end the session. -/
def step (console : Console) (s : Session) (now : Moment) : Line → Session × Reply
  | .blank | .quit => (s, .written .empty)
  | .memory command => remember console s command
  | .clear => (s.clear, .written (.line s.clear.display))
  | .function f => apply console s now f
  | .again => calculate console s now
  | .expression text => calculate console (s.press text) now

/-- Carries out lines after what is already written, up to the one that ends the session or is
interrupted. -/
def run (console : Console) (s : Session) (written : Output) : List Input → Session × Reply
  | [] => (s, .written written)
  | input :: rest =>
    if input.line = .quit then (s, .written written)
    else
      match step console s input.now input.line with
      | (next, ⟨output, some cause⟩) => (next, ⟨written ++ output, some cause⟩)
      | (next, ⟨output, none⟩) => run console next (written ++ output) rest

/-- Shows the help and carries out lines. -/
def carryOut (console : Console) (s : Session) (inputs : List Input) : Session × Reply :=
  match console.reply [help] with
  | ⟨shown, some cause⟩ => (s, ⟨shown, some cause⟩)
  | ⟨shown, none⟩ => run console s shown inputs

end Interactive

end Calculator
