import Calculator.Expression.Tree

/-!
# Reading expressions

A sum is made of terms, a term of factors, and a factor of minus signs in front of a number or of a
sum in parentheses. Tokens are taken one at a time. What is read of the innermost open group and of
the groups around it is kept in a `Reader`, which either expects an operand or has just read one;
so no node is ever put together without its operands, and the depth of parentheses is bounded by
memory alone.

* `Reader.step` takes a token, `Reader.finish` the end of the source.
* `Expr.ofStream?` and `Expr.ofChars?` read a whole expression.
-/

namespace Calculator

/-! ### Groups -/

/-- An operator that waits for its right operand. -/
structure Pending where
  left : Expr
  op : Operator
  position : Nat
deriving DecidableEq

/-- The operation with its right operand; the operand alone if no operator waits. -/
def Pending.close : Option Pending → Expr → Expr
  | none, right => right
  | some pending, right => .binary pending.op pending.position pending.left right

/-- A group in which an operand is expected. -/
structure Group where
  /-- The sum so far and its last operator. -/
  sum : Option Pending
  /-- The term so far and its last operator. -/
  term : Option Pending
  /-- The minus signs in front of the expected operand. -/
  negations : Nat
deriving DecidableEq

namespace Group

/-- A group of which nothing is read. -/
def empty : Group := ⟨none, none, 0⟩

/-- The term of a group with the expected operand. -/
def operand (group : Group) (e : Expr) : Expr :=
  Pending.close group.term (Expr.negated group.negations e)

end Group

/-- A group in which an operand was expected when a parenthesis opened, and the position of that
parenthesis. -/
structure Enclosing where
  position : Nat
  group : Group
deriving DecidableEq

/-! ### Reading token by token -/

/-- What is read of an expression, with the enclosing groups from the innermost on. -/
inductive Reader where
  /-- An operand is expected. -/
  | expecting (group : Group) (outer : List Enclosing)
  /-- The operand of a term is read. -/
  | after (sum : Option Pending) (term : Expr) (outer : List Enclosing)
deriving DecidableEq

namespace Reader

/-- Nothing is read. -/
def start : Reader := .expecting .empty []

/-- The operand of the group is read. -/
def complete (group : Group) (outer : List Enclosing) (e : Expr) : Reader :=
  .after group.sum (group.operand e) outer

/-- Takes a token. -/
def step : Reader → Token → Except Error Reader
  | .expecting group outer, ⟨kind, position⟩ =>
    match kind with
    | .number numeral => .ok (complete group outer (.literal numeral.value))
    | .opening => .ok (.expecting .empty (⟨position, group⟩ :: outer))
    | .operator .minus => .ok (.expecting { group with negations := group.negations + 1 } outer)
    | .operator _ => .error (.placed .parsing .unexpectedToken position)
    | .closing =>
      match outer with
      | [] => .error (.placed .parsing .unmatchedParenthesis position)
      | _ :: _ => .error (.placed .parsing .unexpectedToken position)
  | .after sum term outer, ⟨kind, position⟩ =>
    match kind with
    | .operator op =>
      if op.isAdditive then
        .ok (.expecting ⟨some ⟨Pending.close sum term, op, position⟩, none, 0⟩ outer)
      else .ok (.expecting ⟨sum, some ⟨term, op, position⟩, 0⟩ outer)
    | .closing =>
      match outer with
      | [] => .error (.placed .parsing .unmatchedParenthesis position)
      | ⟨_, group⟩ :: outer => .ok (complete group outer (Pending.close sum term))
    | .number _ | .opening =>
      match outer with
      | [] => .error (.placed .parsing .trailingInput position)
      | _ :: _ => .error (.placed .parsing .unexpectedToken position)

/-- Takes tokens from the left up to the first error. -/
def steps : Reader → List Token → Except Error Reader
  | reader, [] => .ok reader
  | reader, token :: rest =>
    match reader.step token with
    | .ok next => steps next rest
    | .error e => .error e

/-- Takes the end of a source of the given length. -/
def finish (length : Nat) : Reader → Except Error Expr
  | .expecting _ _ => .error (.placed .parsing .unexpectedToken length)
  | .after sum term [] => .ok (Pending.close sum term)
  | .after _ _ (⟨position, _⟩ :: _) => .error (.placed .parsing .unmatchedParenthesis position)

/-- Taking tokens one after the other. -/
theorem steps_append (reader : Reader) (xs ys : List Token) :
    reader.steps (xs ++ ys) = (reader.steps xs).bind (·.steps ys) := by
  induction xs generalizing reader with
  | nil => rfl
  | cons x xs ih =>
    simp only [List.cons_append, steps]
    cases reader.step x with
    | ok next => exact ih next
    | error e => rfl

end Reader

/-! ### Whole expressions -/

namespace Expr

/-- The expression of a stream. A stream without tokens that ends with the source is empty; a broken
stream fails where it breaks off, unless a token before fails. -/
def ofStream? (stream : TokenStream) : Except Error Expr :=
  match Reader.start.steps stream.tokens with
  | .error e => .error e
  | .ok reader =>
    match stream.ending with
    | .broken position => .error (.placed .lexing .invalidCharacter position)
    | .complete length =>
      if stream.tokens = [] then .error (.unplaced .parsing .emptyExpression)
      else reader.finish length

/-- The expression of a source. -/
def ofChars? (cs : List Char) : Except Error Expr := ofStream? (.ofChars cs)

/-- The expression of a source. -/
def ofText? (source : String) : Except Error Expr := ofChars? source.toList

end Expr

end Calculator
