import Calculator.Decimal

/-!
# Errors of a calculation

An error says at which stage the calculation failed, why, and where in the source if it failed at a
place.
-/

namespace Calculator

/-- Why a calculation fails. -/
inductive Cause where
  | invalidCharacter
  | unexpectedToken
  | unmatchedParenthesis
  | trailingInput
  | emptyExpression
  | divisionByZero
  | nonFiniteResult
deriving DecidableEq, Repr

namespace Cause

/-- The name of a cause. -/
def name : Cause → String
  | .invalidCharacter => "invalid_character"
  | .unexpectedToken => "unexpected_token"
  | .unmatchedParenthesis => "unmatched_parenthesis"
  | .trailingInput => "trailing_input"
  | .emptyExpression => "empty_expression"
  | .divisionByZero => "division_by_zero"
  | .nonFiniteResult => "non_finite_result"

/-- What the user is told about a cause. -/
def message : Cause → String
  | .invalidCharacter => "Invalid character"
  | .unexpectedToken => "Expected a number or '('"
  | .unmatchedParenthesis => "Unmatched parenthesis"
  | .trailingInput => "Unexpected input after the expression"
  | .emptyExpression => "Nothing to calculate"
  | .divisionByZero => "Cannot divide by zero"
  | .nonFiniteResult => "Result is out of range"

end Cause

/-- The stage at which a calculation fails. -/
inductive Stage where
  /-- While the source is cut into tokens. -/
  | lexing
  /-- While the tokens are put together to an expression. -/
  | parsing
  /-- While the value of the expression is computed. -/
  | evaluation
  /-- At no stage in particular. -/
  | unspecified
deriving DecidableEq, Repr

namespace Stage

/-- The name under which errors of a stage are reported. -/
def errorName : Stage → String
  | .lexing => "LexError"
  | .parsing => "ParseError"
  | .evaluation => "EvalError"
  | .unspecified => "CalcError"

end Stage

/-- The decimal text of an integer. -/
def integerText (n : Int) : String :=
  String.ofList (if n < 0 then '-' :: digits n.natAbs else digits n.natAbs)

/-- A failed calculation. The position counts the characters of the source from zero. -/
structure Error where
  stage : Stage
  cause : Cause
  position : Option Int
deriving DecidableEq, Repr

namespace Error

/-- An error at a place in the source. -/
def placed (stage : Stage) (cause : Cause) (position : Nat) : Error := ⟨stage, cause, some position⟩

/-- An error at no particular place. -/
def unplaced (stage : Stage) (cause : Cause) : Error := ⟨stage, cause, none⟩

/-- The short description of an error. -/
def description (e : Error) : String :=
  match e.position with
  | none => e.cause.name
  | some position => e.cause.name ++ " at position " ++ integerText position

/-- The full description of an error, with its stage. -/
def fullDescription (e : Error) : String :=
  let place :=
    match e.position with
    | none => "None"
    | some position => integerText position
  e.stage.errorName ++ "('" ++ e.cause.name ++ "', position=" ++ place ++ ")"

/-- What the user is told about an error. Columns count from one. -/
def message (e : Error) : String :=
  match e.position with
  | none => e.cause.message
  | some position => e.cause.message ++ " at column " ++ integerText (position + 1)

/-- The source with a caret under the position of the error on a line of its own; without a position
the source alone. -/
def caretLine (source : String) (e : Error) : String :=
  match e.position with
  | none => source
  | some position =>
    source ++ "\n" ++ String.ofList (List.replicate position.toNat ' ') ++ "^"

end Error

end Calculator
