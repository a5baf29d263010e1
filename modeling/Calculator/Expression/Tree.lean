import Calculator.Expression.Token

/-!
# Expression trees

An expression is a number, a negation or an operation on two expressions.
-/

namespace Calculator

/-- An expression. A hole stands where a tree that was put together by other means lacks an
operand; reading a source leaves no holes. -/
inductive Expr where
  | literal (value : Double)
  | negation (operand : Expr)
  /-- An operation and the position of its operator in the source. -/
  | binary (op : Operator) (position : Nat) (left right : Expr)
  | hole
deriving DecidableEq

namespace Expr

/-- The number of nodes of an expression. -/
def size : Expr → Nat
  | .literal _ => 1
  | .negation operand => operand.size + 1
  | .binary _ _ left right => left.size + right.size + 1
  | .hole => 1

/-- The expression under a number of minus signs. -/
def negated : Nat → Expr → Expr
  | 0, e => e
  | n + 1, e => negated n (.negation e)

end Expr

end Calculator
