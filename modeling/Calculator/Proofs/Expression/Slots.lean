import Calculator.Expression.Groups
import Mathlib.Tactic.Lemma

/-!
# Reading with slots

The groups of a `Reader` hold what they need by construction. Here a group is a record of slots,
each of which may be empty, the groups are a stack that may run empty, and the tokens come from a
source that may be asked for more than it has. Wherever an operand, a group or a token is needed and
is missing, reading comes to a `Mishap`.

No source comes to a mishap (`Slots.read_eq`): reading with slots gives the expression or the error
of `Expr.ofStream?`. The invariant of the groups is that they are those of a reader
(`Slots.Machine.of`), and one step of the machine is one step of the reader
(`Slots.Machine.step_of_token`, `Slots.Machine.step_of_ending`).
-/

namespace Calculator

namespace Slots

/-! ### Mishaps -/

/-- What is missing where it is needed. -/
inductive Mishap where
  /-- An operation is put together without one of its operands. -/
  | operand
  /-- A group is finished of which nothing is read. -/
  | result
  /-- A group is taken from an empty stack. -/
  | group
  /-- A token is asked for behind the end. -/
  | token
deriving DecidableEq, Repr

/-- Why reading halts without an expression. -/
inductive Halt where
  | refused (e : Error)
  | mishap (m : Mishap)
deriving DecidableEq, Repr

/-! ### Groups -/

/-- A group as a record of slots: the position of the parenthesis that opened it, the sum and the
term so far, an operator behind each of them with its position, and a number of minus signs. -/
structure Frame where
  opened : Option Nat
  sum : Option Expr
  sumOperator : Option (Operator × Nat)
  term : Option Expr
  termOperator : Option (Operator × Nat)
  negations : Nat
deriving DecidableEq

namespace Frame

/-- A group of which nothing is read. -/
def empty (opened : Option Nat) : Frame := ⟨opened, none, none, none, none, 0⟩

/-- An operation on what is in two slots. -/
def operation (op : Operator × Nat) : Option Expr → Option Expr → Except Halt Expr
  | some left, some right => .ok (.binary op.1 op.2 left right)
  | _, _ => .error (.mishap .operand)

/-- The group with an operand of its term. -/
def push (frame : Frame) (e : Expr) : Except Halt Frame :=
  let operand := Expr.negated frame.negations e
  match frame.termOperator with
  | none => .ok { frame with negations := 0, term := some operand }
  | some op => do
    let term ← operation op frame.term (some operand)
    return { frame with negations := 0, termOperator := none, term := some term }

/-- The expression of the group. -/
def finish (frame : Frame) : Except Halt Expr :=
  match frame.sumOperator with
  | some op => operation op frame.sum frame.term
  | none =>
    match frame.term with
    | some e => .ok e
    | none => .error (.mishap .result)

/-- The group with an operator behind its sum. -/
def pushAdditive (frame : Frame) (op : Operator × Nat) : Except Halt Frame := do
  let sum ← frame.finish
  return { frame with sum := some sum, sumOperator := some op, term := none }

end Frame

/-! ### Tokens -/

/-- The token in front, or the end of a source of the given length. -/
inductive Front where
  | token (token : Token)
  | ending (length : Nat)
deriving DecidableEq

/-- What is in front, and the stream behind it; there is none behind the end. -/
structure Cursor where
  front : Front
  ahead : Option TokenStream
deriving DecidableEq

namespace Cursor

/-- Draws the next token of a stream. -/
def draw : Option TokenStream → Except Halt Cursor
  | none => .error (.mishap .token)
  | some ⟨token :: tokens, ending⟩ => .ok ⟨.token token, some ⟨tokens, ending⟩⟩
  | some ⟨[], .complete length⟩ => .ok ⟨.ending length, none⟩
  | some ⟨[], .broken position⟩ => .error (.refused (.placed .lexing .invalidCharacter position))

/-- Moves on from a token; the end stays in front. -/
def advance (cursor : Cursor) : Except Halt Cursor :=
  match cursor.front with
  | .token _ => draw cursor.ahead
  | .ending _ => .ok cursor

/-- The number of draws that are left. -/
def left (cursor : Cursor) : Nat :=
  match cursor.ahead with
  | none => 0
  | some stream => stream.tokens.length + 1

end Cursor

/-! ### The machine -/

/-- The state of reading: the cursor, whether an operand is expected, and the groups from the
innermost on. -/
structure Machine where
  cursor : Cursor
  expecting : Bool
  groups : List Frame
deriving DecidableEq

/-- A state, or the expression that is read. -/
abbrev Progress := Machine ⊕ Expr

/-- Refuses a token or the end at a position. -/
def refuse (cause : Cause) (position : Nat) : Except Halt Progress :=
  .error (.refused (.placed .parsing cause position))

namespace Machine

/-- Reads what is in front where an operand is expected. -/
def operand (m : Machine) (frame : Frame) (outer : List Frame) : Except Halt Progress :=
  match m.cursor.front with
  | .token ⟨.operator .minus, _⟩ => do
    let cursor ← m.cursor.advance
    return .inl ⟨cursor, true, { frame with negations := frame.negations + 1 } :: outer⟩
  | .token ⟨.opening, position⟩ => do
    let cursor ← m.cursor.advance
    return .inl ⟨cursor, true, .empty (some position) :: frame :: outer⟩
  | .token ⟨.number numeral, _⟩ => do
    let cursor ← m.cursor.advance
    let frame ← frame.push (.literal numeral.value)
    return .inl ⟨cursor, false, frame :: outer⟩
  | .token ⟨.closing, position⟩ =>
    if frame.opened.isNone then refuse .unmatchedParenthesis position
    else refuse .unexpectedToken position
  | .token ⟨.operator _, position⟩ => refuse .unexpectedToken position
  | .ending length => refuse .unexpectedToken length

/-- The groups when the innermost one is closed. -/
def closed (frame : Frame) : List Frame → Except Halt (List Frame)
  | [] => .error (.mishap .group)
  | enclosing :: outer => do
    let e ← frame.finish
    let enclosing ← enclosing.push e
    return enclosing :: outer

/-- The group behind an operator. -/
def operated (frame : Frame) (op : Operator × Nat) : Except Halt Frame :=
  if op.1.isAdditive then frame.pushAdditive op
  else .ok { frame with termOperator := some op }

/-- Reads what is in front where an operator is expected. The end gives the expression. -/
def operator (m : Machine) (frame : Frame) (outer : List Frame) : Except Halt Progress :=
  match m.cursor.front with
  | .token ⟨.closing, position⟩ =>
    if frame.opened.isNone then refuse .unmatchedParenthesis position
    else do
      let cursor ← m.cursor.advance
      let groups ← closed frame outer
      return .inl ⟨cursor, false, groups⟩
  | .ending _ =>
    match frame.opened with
    | some position => refuse .unmatchedParenthesis position
    | none => do
      let e ← frame.finish
      return .inr e
  | .token ⟨.operator op, position⟩ => do
    let frame ← operated frame (op, position)
    let cursor ← m.cursor.advance
    return .inl ⟨cursor, true, frame :: outer⟩
  | .token ⟨_, position⟩ =>
    if frame.opened.isNone then refuse .trailingInput position
    else refuse .unexpectedToken position

/-- One step of reading. -/
def step (m : Machine) : Except Halt Progress :=
  match m.groups with
  | [] => .error (.mishap .group)
  | frame :: outer => if m.expecting then m.operand frame outer else m.operator frame outer

/-- A step that goes on takes a token. -/
lemma advance_of_step {m next : Machine} (h : m.step = .ok (.inl next)) :
    (∃ token, m.cursor.front = .token token) ∧ m.cursor.advance = .ok next.cursor := by
  obtain ⟨cursor, expecting, groups⟩ := m
  cases groups with
  | nil => cases h
  | cons frame outer =>
    simp only [step, operand, operator, refuse, bind, Except.bind, pure, Except.pure] at h
    grind

/-- A token that is taken leaves fewer to be drawn. -/
lemma left_lt_of_advance {cursor next : Cursor} {token : Token}
    (hfront : cursor.front = .token token) (h : cursor.advance = .ok next) :
    next.left < cursor.left := by
  unfold Cursor.advance at h
  rw [hfront] at h
  unfold Cursor.left
  rcases hahead : cursor.ahead with _ | ⟨_ | ⟨token', tokens⟩, length | position⟩ <;>
    rw [hahead] at h <;> cases h <;> simp

/-- Reads up to the end. -/
def run (m : Machine) : Except Halt Expr :=
  match _hstep : m.step with
  | .error halt => .error halt
  | .ok (.inr e) => .ok e
  | .ok (.inl next) => run next
termination_by m.cursor.left
decreasing_by
  obtain ⟨⟨token, hfront⟩, hadvance⟩ := advance_of_step _hstep
  exact left_lt_of_advance hfront hadvance

end Machine

/-- Reads the expression of a stream. -/
def read (stream : TokenStream) : Except Halt Expr := do
  let cursor ← Cursor.draw (some stream)
  match cursor.front with
  | .ending _ => .error (.refused (.unplaced .parsing .emptyExpression))
  | .token _ => Machine.run ⟨cursor, true, [.empty none]⟩

/-! ### The groups of a reader -/

/-- The position of the parenthesis that opened the innermost group. -/
def opened (outer : List Enclosing) : Option Nat := outer.head?.map (·.position)

/-- The slots of a group in which an operand is expected. -/
def Frame.waiting (group : Group) (outer : List Enclosing) : Frame where
  opened := Slots.opened outer
  sum := group.sum.map (·.left)
  sumOperator := group.sum.map fun pending => (pending.op, pending.position)
  term := group.term.map (·.left)
  termOperator := group.term.map fun pending => (pending.op, pending.position)
  negations := group.negations

/-- The slots of a group of which a term is read. -/
def Frame.filled (sum : Option Pending) (term : Expr) (outer : List Enclosing) : Frame where
  opened := Slots.opened outer
  sum := sum.map (·.left)
  sumOperator := sum.map fun pending => (pending.op, pending.position)
  term := some term
  termOperator := none
  negations := 0

/-- The slots of enclosing groups. -/
def stack : List Enclosing → List Frame
  | [] => []
  | ⟨_, group⟩ :: outer => .waiting group outer :: stack outer

/-- The machine with the groups of a reader. -/
def Machine.of (cursor : Cursor) : Reader → Machine
  | .expecting group outer => ⟨cursor, true, .waiting group outer :: stack outer⟩
  | .after sum term outer => ⟨cursor, false, .filled sum term outer :: stack outer⟩

/-- An operand fills the term of a group. -/
lemma Frame.push_waiting (group : Group) (outer : List Enclosing) (e : Expr) :
    (waiting group outer).push e = .ok (filled group.sum (group.operand e) outer) := by
  obtain ⟨sum, term, negations⟩ := group
  cases term <;> rfl

/-- A group of which a term is read has an expression. -/
lemma Frame.finish_filled (sum : Option Pending) (term : Expr) (outer : List Enclosing) :
    (filled sum term outer).finish = .ok (Pending.close sum term) := by
  cases sum <;> rfl

/-- A group of which a term is read may go on with an operator. -/
lemma Machine.operated_filled (sum : Option Pending) (term : Expr) (outer : List Enclosing)
    (op : Operator) (position : Nat) :
    operated (.filled sum term outer) (op, position) =
      .ok (.waiting (if op.isAdditive then ⟨some ⟨Pending.close sum term, op, position⟩, none, 0⟩
        else ⟨sum, some ⟨term, op, position⟩, 0⟩) outer) := by
  unfold operated
  cases op.isAdditive with
  | true =>
    simp only [if_true, Frame.pushAdditive, Frame.finish_filled, bind, Except.bind]
    rfl
  | false => rfl

/-! ### Steps and runs -/

/-- What a reader does with the token in front is what the machine does, and then the next token is
drawn. -/
lemma Machine.step_of_token (reader : Reader) (token : Token) (ahead : Option TokenStream) :
    (Machine.of ⟨.token token, ahead⟩ reader).step =
      match reader.step token with
      | .error e => .error (.refused e)
      | .ok next => (Cursor.draw ahead).map fun cursor => .inl (.of cursor next) := by
  obtain ⟨kind, position⟩ := token
  cases reader with
  | expecting group outer =>
    cases kind with
    | number numeral =>
      simp only [of, step, operand, if_true, Cursor.advance, Frame.push_waiting, Reader.step]
      cases Cursor.draw ahead <;> rfl
    | opening =>
      simp only [of, step, operand, if_true, Cursor.advance, Reader.step]
      cases Cursor.draw ahead <;> rfl
    | closing => cases outer <;> rfl
    | operator op =>
      cases op with
      | minus =>
        simp only [of, step, operand, if_true, Cursor.advance, Reader.step]
        cases Cursor.draw ahead <;> rfl
      | _ => rfl
  | after sum term outer =>
    cases kind with
    | number numeral => cases outer <;> rfl
    | opening => cases outer <;> rfl
    | closing =>
      cases outer with
      | nil => rfl
      | cons enclosing outer =>
        obtain ⟨opening, group⟩ := enclosing
        simp only [of, step, operator, stack, closed, Cursor.advance, Frame.finish_filled,
          Frame.push_waiting, Reader.step]
        cases Cursor.draw ahead <;> rfl
    | operator op =>
      simp only [of, step, operator, Bool.false_eq_true, if_false, operated_filled, Cursor.advance,
        Reader.step]
      cases Cursor.draw ahead <;> cases op.isAdditive <;> rfl

/-- What a reader does with the end is what the machine does. -/
lemma Machine.step_of_ending (reader : Reader) (length : Nat) (ahead : Option TokenStream) :
    (Machine.of ⟨.ending length, ahead⟩ reader).step =
      match reader.finish length with
      | .error e => .error (.refused e)
      | .ok e => .ok (.inr e) := by
  cases reader with
  | expecting group outer => rfl
  | after sum term outer =>
    cases outer with
    | nil => cases sum <;> rfl
    | cons enclosing outer => rfl

/-- A run goes on as long as its steps do. -/
lemma Machine.run_eq (m : Machine) :
    m.run =
      match m.step with
      | .error halt => .error halt
      | .ok (.inr e) => .ok e
      | .ok (.inl next) => next.run := by
  rw [run]
  split <;> simp only [*]

/-- What a reader makes of a stream, up to the end. -/
def rest (reader : Reader) (stream : TokenStream) : Except Error Expr :=
  match reader.steps stream.tokens with
  | .error e => .error e
  | .ok last =>
    match stream.ending with
    | .broken position => .error (.placed .lexing .invalidCharacter position)
    | .complete length => last.finish length

/-- The machine makes of a stream what a reader makes of it. -/
lemma run_of_draw (reader : Reader) (stream : TokenStream) :
    (do let cursor ← Cursor.draw (some stream); (Machine.of cursor reader).run) =
      (rest reader stream).mapError Halt.refused := by
  obtain ⟨tokens, ending⟩ := stream
  induction tokens generalizing reader with
  | nil =>
    cases ending with
    | broken position => rfl
    | complete length =>
      change (Machine.of ⟨.ending length, none⟩ reader).run = _
      rw [Machine.run_eq, Machine.step_of_ending]
      simp only [rest, Reader.steps]
      cases reader.finish length <;> rfl
  | cons token tokens ih =>
    change (Machine.of ⟨.token token, some ⟨tokens, ending⟩⟩ reader).run = _
    rw [Machine.run_eq, Machine.step_of_token]
    simp only [rest, Reader.steps]
    cases reader.step token with
    | error e => rfl
    | ok next =>
      refine Eq.trans ?_ (ih next)
      cases Cursor.draw (some ⟨tokens, ending⟩) <;> rfl

/-- Reading with slots comes to no mishap: it gives the expression or the error of the stream. -/
theorem read_eq (stream : TokenStream) :
    read stream = (Expr.ofStream? stream).mapError Halt.refused := by
  have hrun := run_of_draw .start stream
  obtain ⟨tokens, ending⟩ := stream
  cases tokens with
  | nil => cases ending <;> rfl
  | cons token tokens =>
    refine hrun.trans ?_
    have hne : token :: tokens ≠ [] := List.cons_ne_nil _ _
    cases hsteps : Reader.start.steps (token :: tokens) with
    | error e => simp only [rest, Expr.ofStream?, hsteps]
    | ok last => cases ending <;> simp only [rest, Expr.ofStream?, hsteps, hne, if_false]

end Slots

end Calculator
