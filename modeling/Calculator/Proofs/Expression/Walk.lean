import Calculator.Proofs.Expression.Values
import Mathlib.Logic.Relation

/-!
# The walk over an expression

The value of an expression is computed in rounds. A round takes the next task and the values that
are on the stack (`Expr.Walk.next?`), and the computation goes on from round to round
(`Expr.Walk.compute_eq`). What the stack of values will hold in the end can be told at every point
of a walk from the recursive values of the expressions that are left to visit, and every round keeps
it (`Expr.Walk.due_eq`).

So a walk has the outcome of the recursion, an operand that is taken from the stack is always there,
and in the end the stack holds one value (`Expr.walk_outcome`).
-/

namespace Calculator

namespace Expr

/-- A point of a walk: what is left to do, the next task first, and the values so far, the last one
first. -/
structure Walk where
  tasks : List Task
  values : List Double

/-- Does a task with the values on the stack. What is left to do comes behind what the task asks
for. -/
def Task.round (left : List Task) (values : List Double) : Task → Except Fault Walk
  | .visit (.literal x) => .ok ⟨left, x :: values⟩
  | .visit (.negation operand) => .ok ⟨.visit operand :: .negate :: left, values⟩
  | .visit (.binary op _ first second) =>
    .ok ⟨.visit first :: .visit second :: .combine op :: left, values⟩
  | .visit .hole => .error .hole
  | .negate =>
    match values with
    | x :: values => .ok ⟨left, -x :: values⟩
    | [] => .error .emptyStack
  | .combine op =>
    match values with
    | b :: a :: values => (op.apply a b).map fun x => ⟨left, x :: values⟩
    | _ => .error .emptyStack

/-- What becomes of the values on the stack when a task and all that it asks for is done. -/
def Task.due (values : List Double) : Task → Except Fault (List Double)
  | .visit e => e.value.map (· :: values)
  | .negate =>
    match values with
    | x :: values => .ok (-x :: values)
    | [] => .error .emptyStack
  | .combine op =>
    match values with
    | b :: a :: values => (op.apply a b).map (· :: values)
    | _ => .error .emptyStack

namespace Walk

/-! ### Rounds -/

/-- The walk over an expression begins with a visit and no values. -/
def start (e : Expr) : Walk := ⟨[.visit e], []⟩

/-- The point after the next round, or why the round fails. There is no round when nothing is left
to do. -/
def next? (walk : Walk) : Option (Except Fault Walk) :=
  match walk.tasks with
  | [] => none
  | task :: left => some (task.round left walk.values)

/-- Whether rounds lead from one point of a walk to another. -/
def Leads : Walk → Walk → Prop :=
  Relation.ReflTransGen fun walk next => walk.next? = some (.ok next)

/-- The value that is computed from a point of a walk on. -/
def compute (walk : Walk) : Except Fault Double := perform walk.tasks walk.values

/-- The computation goes on from round to round, and in the end it takes the last value. -/
lemma compute_eq (walk : Walk) :
    walk.compute =
      match walk.next? with
      | some (.ok next) => next.compute
      | some (.error fault) => .error fault
      | none => walk.values.head?.elim (.error .emptyStack) .ok := by
  obtain ⟨tasks, values⟩ := walk
  unfold compute next?
  cases tasks with
  | nil => cases values <;> simp only [perform] <;> rfl
  | cons task left =>
    cases task with
    | visit e => cases e <;> simp only [perform, Task.round]
    | negate => cases values <;> simp only [perform, Task.round]
    | combine op =>
      rcases values with _ | ⟨b, _ | ⟨a, values⟩⟩
      · simp only [perform, Task.round]
      · simp only [perform, Task.round]
      · simp only [perform, Task.round]
        cases op.apply a b <;> rfl

/-- A round that succeeds leaves fewer steps to do. -/
lemma weight_lt_of_next? {walk next : Walk} (h : walk.next? = some (.ok next)) :
    weight next.tasks < weight walk.tasks := by
  obtain ⟨tasks, values⟩ := walk
  cases tasks with
  | nil => cases h
  | cons task left =>
    have hround : task.round left values = .ok next := Option.some.inj h
    cases task with
    | visit e =>
      cases e with
      | literal x =>
        cases hround
        simp only [weight, Task.weight, size]
        omega
      | negation operand =>
        cases hround
        simp only [weight, Task.weight, size]
        omega
      | binary op position first second =>
        cases hround
        simp only [weight, Task.weight, size]
        omega
      | hole => cases hround
    | negate =>
      cases values with
      | nil => cases hround
      | cons x values =>
        cases hround
        simp only [weight, Task.weight]
        omega
    | combine op =>
      rcases values with _ | ⟨b, _ | ⟨a, values⟩⟩
      · cases hround
      · cases hround
      · simp only [Task.round] at hround
        cases hop : op.apply a b with
        | error fault => rw [hop] at hround; cases hround
        | ok x =>
          rw [hop] at hround
          cases hround
          simp only [weight, Task.weight]
          omega

/-- Rounds lead from every point to one at which nothing is left to do, or to a round that fails. -/
lemma exists_end (walk : Walk) :
    ∃ last, walk.Leads last ∧ (last.next? = none ∨ ∃ fault, last.next? = some (.error fault)) := by
  induction hweight : weight walk.tasks using Nat.strongRecOn generalizing walk with
  | ind n ih =>
    rcases hnext : walk.next? with _ | fault | next
    · exact ⟨walk, .refl, Or.inl hnext⟩
    · exact ⟨walk, .refl, Or.inr ⟨fault, hnext⟩⟩
    · have hlt : weight next.tasks < n := hweight ▸ weight_lt_of_next? hnext
      obtain ⟨last, hleads, hlast⟩ := ih _ hlt next rfl
      exact ⟨last, .head hnext hleads, hlast⟩

/-! ### What the stack will hold -/

/-- What becomes of the values on the stack when all tasks are done. -/
def dueAll : List Task → List Double → Except Fault (List Double)
  | [], values => .ok values
  | task :: left, values => (task.due values).bind (dueAll left)

/-- What the stack holds in the end of a walk, or why the walk fails. -/
def due (walk : Walk) : Except Fault (List Double) := dueAll walk.tasks walk.values

/-- Every round keeps what is due, a round that fails does so as what is due does, and in the end
the stack holds what is due. -/
lemma due_eq (walk : Walk) :
    walk.due =
      match walk.next? with
      | some (.ok next) => next.due
      | some (.error fault) => .error fault
      | none => .ok walk.values := by
  obtain ⟨tasks, values⟩ := walk
  unfold due next?
  cases tasks with
  | nil => rfl
  | cons task left =>
    cases task with
    | visit e =>
      cases e with
      | literal x => rfl
      | negation operand =>
        simp only [dueAll, Task.due, Task.round, value]
        cases operand.value <;> rfl
      | binary op position first second =>
        simp only [dueAll, Task.due, Task.round, value]
        cases first.value with
        | error fault => rfl
        | ok a => cases second.value <;> rfl
      | hole => rfl
    | negate => cases values <;> rfl
    | combine op =>
      rcases values with _ | ⟨b, _ | ⟨a, values⟩⟩
      · rfl
      · rfl
      · simp only [dueAll, Task.due, Task.round]
        cases op.apply a b <;> rfl

/-- What is due and the value that is computed stay the same along a walk. -/
lemma Leads.due_eq {walk last : Walk} (h : walk.Leads last) :
    last.due = walk.due ∧ last.compute = walk.compute := by
  induction h with
  | refl => exact ⟨rfl, rfl⟩
  | @tail middle last _ hnext ih =>
    obtain ⟨hdue, hcompute⟩ := ih
    constructor
    · rw [← hdue, middle.due_eq, hnext]
    · rw [← hcompute, middle.compute_eq, hnext]

end Walk

/-! ### The outcome of a walk -/

/-- The recursion takes no operand from a stack. -/
lemma value_ne_emptyStack (e : Expr) : e.value ≠ .error .emptyStack := by
  induction e with
  | literal x => simp [value]
  | negation operand ih =>
    rw [value]
    cases hoperand : operand.value with
    | error fault =>
      rw [hoperand] at ih
      exact ih
    | ok x => simp
  | binary op position left right ihl ihr =>
    rw [value]
    cases hleft : left.value with
    | error fault =>
      rw [hleft] at ihl
      exact ihl
    | ok a =>
      cases hright : right.value with
      | error fault =>
        rw [hright] at ihr
        exact ihr
      | ok b =>
        rcases op.apply_cases a b with ⟨x, hx⟩ | hzero
        · simp [hx]
        · simp [hzero]
  | hole => simp [value]

open Walk

/-- The walk over an expression computes the recursive value, with the fault that the recursion
meets first. At every point that it comes to, the computation from there on has that outcome, the
next round finds its operands on the stack, and if nothing is left to do, the stack holds the value
and nothing else. The walk does come to an end: to such a point, or to a round that fails as the
recursion does. -/
theorem walk_outcome (e : Expr) :
    e.run = e.value ∧
    (∀ walk, (start e).Leads walk →
      walk.compute = e.value ∧ walk.next? ≠ some (.error .emptyStack) ∧
      (walk.tasks = [] → ∃ x, walk.values = [x] ∧ e.value = .ok x)) ∧
    ∃ last, (start e).Leads last ∧
      ((∃ x, e.value = .ok x ∧ last = ⟨[], [x]⟩) ∨
        ∃ fault, e.value = .error fault ∧ last.next? = some (.error fault)) := by
  have hdue : ∀ walk, (start e).Leads walk → walk.due = e.value.map fun x => [x] := by
    intro walk hleads
    rw [hleads.due_eq.1, due, start, dueAll, Task.due]
    cases e.value <;> rfl
  have hfails : ∀ walk fault, (start e).Leads walk → walk.next? = some (.error fault) →
      e.value = .error fault := by
    intro walk fault hleads hnext
    have hwalk := hdue walk hleads
    rw [walk.due_eq, hnext] at hwalk
    cases hvalue : e.value with
    | error fault' => rw [hvalue] at hwalk; cases hwalk; rfl
    | ok x => rw [hvalue] at hwalk; cases hwalk
  have hends : ∀ walk, (start e).Leads walk → walk.tasks = [] →
      ∃ x, walk.values = [x] ∧ e.value = .ok x := by
    intro walk hleads htasks
    have hwalk := hdue walk hleads
    rw [due, htasks, dueAll] at hwalk
    cases hvalue : e.value with
    | error fault => rw [hvalue] at hwalk; cases hwalk
    | ok x =>
      rw [hvalue] at hwalk
      exact ⟨x, Except.ok.inj hwalk, rfl⟩
  refine ⟨e.run_eq_value, ?_, ?_⟩
  · intro walk hleads
    refine ⟨hleads.due_eq.2.trans e.run_eq_value, ?_, hends walk hleads⟩
    intro hnext
    exact e.value_ne_emptyStack (hfails walk .emptyStack hleads hnext)
  · obtain ⟨last, hleads, hlast | ⟨fault, hfault⟩⟩ := (start e).exists_end
    · have htasks : last.tasks = [] := by
        obtain ⟨tasks, values⟩ := last
        cases tasks with
        | nil => rfl
        | cons task left => cases hlast
      obtain ⟨x, hvalues, hvalue⟩ := hends last hleads htasks
      refine ⟨last, hleads, Or.inl ⟨x, hvalue, ?_⟩⟩
      rw [← htasks, ← hvalues]
    · exact ⟨last, hleads, Or.inr ⟨fault, hfails last fault hleads hfault, hfault⟩⟩

end Expr

end Calculator
