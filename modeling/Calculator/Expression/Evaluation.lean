import Calculator.Double.Arithmetic
import Calculator.Expression.Groups

/-!
# Values of expressions

The value of an expression is computed with a stack of tasks and a stack of values, so the depth of
an expression is bounded by memory alone. Beside it stands the plain recursive value.

* `Expr.value`: the recursive value.
* `Expr.run`: the value computed with stacks.
* `evaluate`: the finite value of a source, or why it has none.
-/

namespace Calculator

/-- Why an expression has no value. -/
inductive Fault where
  /-- A divisor is zero. -/
  | divisionByZero
  /-- A hole is reached. -/
  | hole
  /-- An operand is taken from an empty stack of values. -/
  | emptyStack
deriving DecidableEq, Repr

/-- The result of an operation. Quotient and remainder have none when the divisor is zero. -/
def Operator.apply (op : Operator) (a b : Double) : Except Fault Double :=
  match op with
  | .plus => .ok (a + b)
  | .minus => .ok (a - b)
  | .times => .ok (a * b)
  | .over => if b.isZero then .error .divisionByZero else .ok (a / b)
  | .modulo => if b.isZero then .error .divisionByZero else .ok (a % b)

namespace Expr

/-! ### The recursive value -/

/-- The value of an expression: the left operand first, then the right one, then the operation. -/
def value : Expr → Except Fault Double
  | .literal x => .ok x
  | .negation operand =>
    match operand.value with
    | .ok x => .ok (-x)
    | .error fault => .error fault
  | .binary op _ left right =>
    match left.value with
    | .error fault => .error fault
    | .ok a =>
      match right.value with
      | .error fault => .error fault
      | .ok b => op.apply a b
  | .hole => .error .hole

/-! ### The value with stacks -/

/-- What is left to do. -/
inductive Task where
  /-- Compute the value of an expression. -/
  | visit (e : Expr)
  /-- Negate the last value. -/
  | negate
  /-- Combine the last two values. -/
  | combine (op : Operator)

/-- The number of steps that a task takes. -/
def Task.weight : Task → Nat
  | .visit e => 2 * e.size
  | .negate => 1
  | .combine _ => 1

/-- The number of steps that tasks take. -/
def weight : List Task → Nat
  | [] => 0
  | task :: rest => task.weight + weight rest

/-- Does what is left to do, with the last value first on the stack. -/
def perform (tasks : List Task) (values : List Double) : Except Fault Double :=
  match tasks with
  | [] =>
    match values with
    | x :: _ => .ok x
    | [] => .error .emptyStack
  | .visit (.literal x) :: rest => perform rest (x :: values)
  | .visit (.negation operand) :: rest => perform (.visit operand :: .negate :: rest) values
  | .visit (.binary op _ left right) :: rest =>
    perform (.visit left :: .visit right :: .combine op :: rest) values
  | .visit .hole :: _ => .error .hole
  | .negate :: rest =>
    match values with
    | x :: values => perform rest (-x :: values)
    | [] => .error .emptyStack
  | .combine op :: rest =>
    match values with
    | b :: a :: values =>
      match op.apply a b with
      | .ok x => perform rest (x :: values)
      | .error fault => .error fault
    | _ => .error .emptyStack
termination_by weight tasks
decreasing_by all_goals simp [weight, Task.weight, size] <;> omega

/-- The value of an expression, computed with stacks. -/
def run (e : Expr) : Except Fault Double := perform [.visit e] []

end Expr

/-! ### Sources -/

/-- The error of a fault. An expression that is read from a source has no hole and keeps its stack
filled, so only a zero divisor comes up. -/
def Fault.error : Fault → Error
  | .divisionByZero => .unplaced .evaluation .divisionByZero
  | .hole | .emptyStack => .unplaced .evaluation .nonFiniteResult

/-- A finite number, or the error of a result out of range. -/
def finite? (x : Double) : Except Error Double :=
  if x.isFinite then .ok x else .error (.unplaced .evaluation .nonFiniteResult)

/-- The finite value of a source. -/
def evaluateChars (cs : List Char) : Except Error Double :=
  match Expr.ofChars? cs with
  | .error e => .error e
  | .ok expr =>
    match expr.run with
    | .error fault => .error fault.error
    | .ok x => finite? x

/-- The finite value of a source. -/
def evaluate (source : String) : Except Error Double := evaluateChars source.toList

end Calculator
