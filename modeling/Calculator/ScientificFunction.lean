import Calculator.Double.Elementary
import Calculator.Expression.Evaluation
import Calculator.Text.Quoted

/-!
# Scientific functions

The functions beside the keypad: sine, cosine and tangent of an angle in radians, square root and
decimal logarithm. An argument outside the domain has a result that is not finite, which is an error
as it is for expressions.
-/

namespace Calculator

/-- A function of one number. -/
inductive ScientificFunction where
  | sin
  | cos
  | tan
  | sqrt
  | log
deriving DecidableEq, Repr

namespace ScientificFunction

/-- The functions in the order of the keypad. -/
def all : List ScientificFunction := [.sin, .cos, .tan, .sqrt, .log]

/-- The name of a function. -/
def name : ScientificFunction → String
  | .sin => "sin"
  | .cos => "cos"
  | .tan => "tan"
  | .sqrt => "sqrt"
  | .log => "log"

/-- The function of a name. -/
def ofName? (name : String) : Option ScientificFunction := all.find? (·.name = name)

/-- A function is found by its name. -/
theorem ofName?_name (f : ScientificFunction) : ofName? f.name = some f := by
  cases f <;> rfl

/-- The value of a function, a not-a-number or an infinity where it has none. -/
def value : ScientificFunction → Double → Double
  | .sin => Double.sin
  | .cos => Double.cos
  | .tan => Double.tan
  | .sqrt => Double.sqrt
  | .log => Double.log10

/-- The finite value of a function. -/
def apply (f : ScientificFunction) (x : Double) : Except Error Double := finite? (f.value x)

/-- What is said of a name that no choice of a kind has. -/
def unknownMessage (kind name : String) : String :=
  Text.quotedString name ++ " is not a valid " ++ kind

end ScientificFunction

end Calculator
