import Calculator.Conversion
import Calculator.Decimal.Reading
import Calculator.Display
import Calculator.Expression.Evaluation
import Calculator.History.Store
import Calculator.Memory
import Calculator.ScientificFunction

/-!
# Calculator sessions

The state behind one calculator: the equation that is typed, what the display shows, a preview of the
value, a memory, and a history if calculations are recorded. An operation changes the state and has an
outcome; when it is refused, what it changed before stays changed.
-/

namespace Calculator

/-! ### State and outcomes -/

/-- The state of a session. -/
structure Session where
  display : String
  equation : String
  preview : String
  /-- Whether the next text that is typed begins a new equation. -/
  isNew : Bool
  memory : Memory
  history : Option Store

/-- Why an operation is refused. -/
inductive Refusal where
  | unknownFunction (name : String)
  | unknownCategory (name : String)
  | unknownUnit (unit : UnknownUnit)
  | store (failure : StoreFailure)
deriving DecidableEq, Repr

/-- The outcome of an operation that is not refused. -/
inductive Outcome where
  /-- Nothing to report. -/
  | done
  /-- The value of a calculation, or why it has none. -/
  | result (value : Except Error Double)
  /-- A converted quantity. -/
  | converted (value : Double)

namespace Session

/-- A new session. -/
def start (history : Option Store) : Session := ⟨"0", "", "", true, .empty, history⟩

/-- What the display shows after a failed calculation. -/
def errorDisplay : String := "Error"

/-- The number on the display. A text that is no finite number counts as zero. -/
def displayValue (s : Session) : Double :=
  match Double.ofText? s.display with
  | some x => if x.isFinite then x else .zero false
  | none => .zero false

/-- The preview of an equation: its value, or nothing. -/
def previewOf (equation : String) : String :=
  match evaluate equation with
  | .ok x => x.display
  | .error _ => ""

/-- The state with the preview of its equation. -/
def withPreview (s : Session) : Session := { s with preview := previewOf s.equation }

/-- The state in which the next text begins a new equation. -/
def finished (s : Session) : Session := { s with isNew := true, preview := "" }

/-- Records a calculation, if calculations are recorded. -/
def record (s : Session) (now : Moment) (equation result : String) (kind : RecordKind) :
    Session × Except Refusal Unit :=
  match s.history with
  | none => (s, .ok ())
  | some store =>
    match store.record now equation result kind.name with
    | (next, .ok _) => ({ s with history := some next }, .ok ())
    | (next, .error failure) => ({ s with history := some next }, .error (.store failure))

/-! ### Typing -/

/-- Types a text. It begins a new equation, follows the equation that is begun, and takes the place of
a lone zero on the display. -/
def press (s : Session) (text : String) : Session :=
  let typed :=
    if s.isNew then { s with display := text, equation := text, isNew := false }
    else
      { s with
        display := if s.display = "0" then text else s.display ++ text
        equation := s.equation ++ text }
  typed.withPreview

/-- Shows the value of the equation and records it. -/
def submit (s : Session) (now : Moment) : Session × Except Refusal Outcome :=
  match evaluate s.equation with
  | .error e => ({ s with display := errorDisplay }.finished, .ok (.result (.error e)))
  | .ok x =>
    let shown := { s with display := x.display }
    match shown.record now s.equation x.display .standard with
    | (recorded, .error refusal) => (recorded, .error refusal)
    | (recorded, .ok ()) => (recorded.finished, .ok (.result (.ok x)))

/-- Forgets the equation; memory and history are kept. -/
def clear (s : Session) : Session :=
  { s with display := "0", equation := "", preview := "", isNew := true }

/-! ### Memory -/

/-- Adds the number on the display to the memory. -/
def memoryAdd (s : Session) : Session := { s with memory := s.memory.add s.displayValue }

/-- Subtracts the number on the display from the memory. -/
def memorySubtract (s : Session) : Session := { s with memory := s.memory.subtract s.displayValue }

/-- Begins an equation with the memory. -/
def memoryRecall (s : Session) : Session :=
  { s with
    display := s.memory.value.display
    equation := s.memory.value.display
    isNew := false }.withPreview

/-- Sets the memory to zero. -/
def memoryClear (s : Session) : Session := { s with memory := .empty }

/-! ### Functions and conversions -/

/-- A function applied to a number as it is recorded. -/
def functionText (f : ScientificFunction) (x : Double) : String :=
  f.name ++ "(" ++ x.display ++ ")"

/-- A conversion as it is recorded. -/
def conversionText (x : Double) (source target : String) : String :=
  x.display ++ " " ++ source ++ " to " ++ target

/-- Applies a function to the number on the display, shows the value and records it. -/
def applyFunction (s : Session) (now : Moment) (f : ScientificFunction) :
    Session × Except Refusal Outcome :=
  let x := s.displayValue
  match f.apply x with
  | .error e => ({ s with display := errorDisplay }.finished, .ok (.result (.error e)))
  | .ok y =>
    let shown := { s with display := y.display, equation := y.display }
    match shown.record now (functionText f x) y.display .scientific with
    | (recorded, .error refusal) => (recorded, .error refusal)
    | (recorded, .ok ()) => (recorded.finished, .ok (.result (.ok y)))

/-- Applies the function of a name. -/
def scientific (s : Session) (now : Moment) (name : String) : Session × Except Refusal Outcome :=
  match ScientificFunction.ofName? name with
  | none => (s, .error (.unknownFunction name))
  | some f => s.applyFunction now f

/-- Converts a quantity, shows it and records it. The preview is left as it is. -/
def convert (s : Session) (now : Moment) (x : Double) (category source target : String) :
    Session × Except Refusal Outcome :=
  match Category.ofName? category with
  | none => (s, .error (.unknownCategory category))
  | some c =>
    match Calculator.convert x c source target with
    | .error unit => (s, .error (.unknownUnit unit))
    | .ok y =>
      let shown := { s with display := y.display, equation := y.display, isNew := true }
      match shown.record now (conversionText x source target) y.display .conversion with
      | (recorded, .error refusal) => (recorded, .error refusal)
      | (recorded, .ok ()) => (recorded, .ok (.converted y))

/-! ### Operations -/

/-- An operation on a session. -/
inductive Operation where
  | press (text : String)
  | submit
  | clear
  | memoryAdd
  | memorySubtract
  | memoryRecall
  | memoryClear
  | scientific (name : String)
  | convert (value : Double) (category source target : String)

/-- Carries out an operation at a moment. -/
def step (s : Session) (now : Moment) : Operation → Session × Except Refusal Outcome
  | .press text => (s.press text, .ok .done)
  | .submit => s.submit now
  | .clear => (s.clear, .ok .done)
  | .memoryAdd => (s.memoryAdd, .ok .done)
  | .memorySubtract => (s.memorySubtract, .ok .done)
  | .memoryRecall => (s.memoryRecall, .ok .done)
  | .memoryClear => (s.memoryClear, .ok .done)
  | .scientific name => s.scientific now name
  | .convert value category source target => s.convert now value category source target

end Session

end Calculator
