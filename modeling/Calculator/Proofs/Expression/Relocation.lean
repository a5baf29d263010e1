import Calculator.Proofs.Expression.Values

/-!
# Positions in a source

Reading takes no notice of where the tokens stand. If every position is moved, the same expression
is read with its operators at the moved positions, or the same error is met at its moved position
(`Expr.ofStream?_relocate`). The value of an expression does not depend on positions at all
(`Expr.value_relocate`), so two streams of the same tokens in different places have the same value
or the same error but for its position (`TokenStream.outcome_relocate`).
-/

namespace Calculator

variable (f : Nat → Nat)

/-! ### Moved positions -/

/-- The error at the moved position. An error at no particular place stays as it is. -/
def Error.relocate (e : Error) : Error :=
  { e with position := e.position.map fun position => (f position.toNat : Int) }

/-- An error at a place is met at the moved place. -/
@[simp] lemma Error.relocate_placed (stage : Stage) (cause : Cause) (position : Nat) :
    (placed stage cause position).relocate f = placed stage cause (f position) := rfl

/-- An error at no particular place stays as it is. -/
@[simp] lemma Error.relocate_unplaced (stage : Stage) (cause : Cause) :
    (unplaced stage cause).relocate f = unplaced stage cause := rfl

/-- The token at the moved position. -/
def Token.relocate (token : Token) : Token := { token with position := f token.position }

/-- The end at the moved position. -/
def Ending.relocate : Ending → Ending
  | .complete length => .complete (f length)
  | .broken position => .broken (f position)

/-- The stream at the moved positions. -/
def TokenStream.relocate (stream : TokenStream) : TokenStream :=
  ⟨stream.tokens.map (Token.relocate f), stream.ending.relocate f⟩

/-- The expression with its operators at the moved positions. -/
def Expr.relocate : Expr → Expr
  | .literal x => .literal x
  | .negation operand => .negation operand.relocate
  | .binary op position left right => .binary op (f position) left.relocate right.relocate
  | .hole => .hole

/-- The operator that waits, at the moved position. -/
def Pending.relocate (pending : Pending) : Pending :=
  ⟨pending.left.relocate f, pending.op, f pending.position⟩

/-- The group at the moved positions. -/
def Group.relocate (group : Group) : Group :=
  ⟨group.sum.map (Pending.relocate f), group.term.map (Pending.relocate f), group.negations⟩

/-- The enclosing group at the moved positions. -/
def Enclosing.relocate (enclosing : Enclosing) : Enclosing :=
  ⟨f enclosing.position, enclosing.group.relocate f⟩

/-- What is read, at the moved positions. -/
def Reader.relocate : Reader → Reader
  | .expecting group outer => .expecting (group.relocate f) (outer.map (Enclosing.relocate f))
  | .after sum term outer =>
    .after (sum.map (Pending.relocate f)) (term.relocate f) (outer.map (Enclosing.relocate f))

/-! ### Reading -/

/-- Minus signs carry no position. -/
lemma Expr.negated_relocate (n : Nat) (e : Expr) :
    Expr.negated n (e.relocate f) = (Expr.negated n e).relocate f := by
  induction n generalizing e with
  | zero => rfl
  | succ n ih => exact ih (.negation e)

/-- An operation is closed at the moved position. -/
lemma Pending.close_relocate (pending : Option Pending) (e : Expr) :
    Pending.close (pending.map (Pending.relocate f)) (e.relocate f) =
      (Pending.close pending e).relocate f := by
  cases pending <;> rfl

namespace Reader

/-- An operand is completed at the moved positions. -/
lemma complete_relocate (group : Group) (outer : List Enclosing) (e : Expr) :
    complete (group.relocate f) (outer.map (Enclosing.relocate f)) (e.relocate f) =
      (complete group outer e).relocate f := by
  simp only [complete, Group.operand, Group.relocate, relocate, Expr.negated_relocate,
    Pending.close_relocate]

/-- A token at the moved position is taken as the token is, or refused as it is. -/
lemma step_relocate (reader : Reader) (token : Token) :
    (reader.relocate f).step (token.relocate f) =
      ((reader.step token).map (relocate f)).mapError (Error.relocate f) := by
  obtain ⟨kind, position⟩ := token
  cases reader with
  | expecting group outer =>
    cases kind with
    | number numeral =>
      exact congrArg Except.ok (complete_relocate f group outer (.literal numeral.value))
    | opening => rfl
    | closing => cases outer <;> rfl
    | operator op => cases op <;> rfl
  | after sum term outer =>
    cases kind with
    | number numeral => cases outer <;> rfl
    | opening => cases outer <;> rfl
    | closing =>
      cases outer with
      | nil => rfl
      | cons enclosing outer =>
        have hcomplete := complete_relocate f enclosing.group outer (Pending.close sum term)
        rw [← Pending.close_relocate] at hcomplete
        exact congrArg Except.ok hcomplete
    | operator op =>
      have hclose := Pending.close_relocate f sum term
      cases hop : op.isAdditive with
      | false =>
        simp only [step, relocate, Token.relocate, hop, Bool.false_eq_true, if_false]
        rfl
      | true =>
        simp only [step, relocate, Token.relocate, hop, hclose, if_true]
        rfl

/-- Tokens at the moved positions are taken as the tokens are, up to the first error. -/
lemma steps_relocate (reader : Reader) (tokens : List Token) :
    (reader.relocate f).steps (tokens.map (Token.relocate f)) =
      ((reader.steps tokens).map (relocate f)).mapError (Error.relocate f) := by
  induction tokens generalizing reader with
  | nil => rfl
  | cons token tokens ih =>
    rw [List.map_cons, steps, steps, step_relocate]
    cases reader.step token with
    | ok next => exact ih next
    | error e => rfl

/-- The moved end is taken as the end is. -/
lemma finish_relocate (length : Nat) (reader : Reader) :
    (reader.relocate f).finish (f length) =
      ((reader.finish length).map (Expr.relocate f)).mapError (Error.relocate f) := by
  cases reader with
  | expecting group outer => rfl
  | after sum term outer =>
    cases outer with
    | nil => exact congrArg Except.ok (Pending.close_relocate f sum term)
    | cons enclosing outer => rfl

end Reader

namespace Expr

/-- A stream at the moved positions is read as the stream is. -/
theorem ofStream?_relocate (stream : TokenStream) :
    ofStream? (stream.relocate f) =
      ((ofStream? stream).map (relocate f)).mapError (Error.relocate f) := by
  obtain ⟨tokens, ending⟩ := stream
  have hsteps := Reader.steps_relocate f .start tokens
  have hstart : Reader.start.relocate f = .start := rfl
  rw [hstart] at hsteps
  simp only [ofStream?, TokenStream.relocate, hsteps]
  cases Reader.start.steps tokens with
  | error e => rfl
  | ok reader =>
    cases ending with
    | broken position => rfl
    | complete length =>
      by_cases hnil : tokens = []
      · subst hnil
        rfl
      · simp only [Ending.relocate, Except.map, List.map_eq_nil_iff, hnil, if_false]
        exact Reader.finish_relocate f length reader

/-- The value of an expression does not depend on the positions of its operators. -/
theorem value_relocate (e : Expr) : (e.relocate f).value = e.value := by
  induction e with
  | literal x => rfl
  | negation operand ih => simp only [relocate, value, ih]
  | binary op position left right ihl ihr => simp only [relocate, value, ihl, ihr]
  | hole => rfl

end Expr

/-! ### Values -/

/-- The error of a fault has no position. -/
lemma Fault.relocate_error (fault : Fault) : fault.error.relocate f = fault.error := by
  cases fault <;> rfl

/-- The error of a number out of range has no position. -/
lemma mapError_finite? (x : Double) : (finite? x).mapError (Error.relocate f) = finite? x := by
  unfold finite?
  split <;> rfl

/-- The finite value of the expression of a stream, or why there is none. -/
def TokenStream.outcome (stream : TokenStream) : Except Error Double :=
  match Expr.ofStream? stream with
  | .error e => .error e
  | .ok expr =>
    match expr.run with
    | .error fault => .error fault.error
    | .ok x => finite? x

/-- The value of a source is that of its stream. -/
lemma evaluateChars_eq_outcome (cs : List Char) :
    evaluateChars cs = (TokenStream.ofChars cs).outcome := rfl

/-- A stream at the moved positions has the value of the stream, or its error at the moved
position. -/
theorem TokenStream.outcome_relocate (stream : TokenStream) :
    (stream.relocate f).outcome = stream.outcome.mapError (Error.relocate f) := by
  unfold outcome
  rw [Expr.ofStream?_relocate]
  cases Expr.ofStream? stream with
  | error e => rfl
  | ok expr =>
    have hok : ((Except.ok expr).map (Expr.relocate f)).mapError (Error.relocate f) =
        .ok (expr.relocate f) := rfl
    simp only [hok, Expr.run_eq_value, Expr.value_relocate]
    cases expr.value with
    | error fault => exact congrArg Except.error (Fault.relocate_error f fault).symm
    | ok x => exact (mapError_finite? f x).symm

variable {f}

/-- A source whose tokens are those of another one at moved positions has the value of that one, or
its error at the moved position. -/
theorem evaluateChars_of_relocate {cs cs' : List Char}
    (h : TokenStream.ofChars cs' = (TokenStream.ofChars cs).relocate f) :
    evaluateChars cs' = (evaluateChars cs).mapError (Error.relocate f) := by
  rw [evaluateChars_eq_outcome, evaluateChars_eq_outcome, h, TokenStream.outcome_relocate]

end Calculator
