import Calculator.Decimal.Notation
import Calculator.Expression.Error
import Calculator.Text.Quoted

/-!
# JSON values

A JSON value, and the text that shows it. Texts are kept as units, so that half a character can be held
as well. Whole numbers are kept apart from other numbers and are not rounded. The members of an object
have different keys and stand in the order in which the keys came first.
-/

namespace Calculator

/-- A JSON value. -/
inductive Json where
  | null
  | bool (value : Bool)
  | integer (value : Int)
  | number (value : Double)
  | text (value : CodeUnits)
  | array (elements : List Json)
  | object (members : List (CodeUnits × Json))

namespace Json

/-! ### Members -/

/-- The members with one more; the value of a key that is there already is replaced. -/
def putMember (key : CodeUnits) (value : Json) :
    List (CodeUnits × Json) → List (CodeUnits × Json)
  | [] => [(key, value)]
  | (k, v) :: rest => if k = key then (key, value) :: rest else (k, v) :: putMember key value rest

/-- The value of a key. -/
def member? (key : CodeUnits) : List (CodeUnits × Json) → Option Json
  | [] => none
  | (k, v) :: rest => if k = key then some v else member? key rest

/-- A key that is put has its value. -/
theorem member?_putMember_self (key : CodeUnits) (value : Json)
    (ms : List (CodeUnits × Json)) :
    member? key (putMember key value ms) = some value := by
  induction ms with
  | nil => simp [putMember, member?]
  | cons m ms ih =>
    rcases m with ⟨k, v⟩
    by_cases h : k = key <;> simp [putMember, member?, h, ih]

/-- Other keys keep their values. -/
theorem member?_putMember_of_ne {key other : CodeUnits} (h : key ≠ other) (value : Json)
    (ms : List (CodeUnits × Json)) :
    member? other (putMember key value ms) = member? other ms := by
  induction ms with
  | nil => simp [putMember, member?, h]
  | cons m ms ih =>
    rcases m with ⟨k, v⟩
    by_cases hk : k = key
    · subst hk; simp [putMember, member?, h]
    · simp [putMember, member?, hk, ih]

/-! ### Shown values -/

mutual

/-- The text that shows a value inside another one. -/
def shown : Json → List Char
  | .null => ['N', 'o', 'n', 'e']
  | .bool true => ['T', 'r', 'u', 'e']
  | .bool false => ['F', 'a', 'l', 's', 'e']
  | .integer n => (integerText n).toList
  | .number x => x.chars
  | .text s => Text.quoted s.points
  | .array xs => '[' :: (shownElements xs ++ [']'])
  | .object ms => '\x7b' :: (shownMembers ms ++ ['\x7d'])

/-- The elements of an array, separated by commas. -/
def shownElements : List Json → List Char
  | [] => []
  | [x] => shown x
  | x :: y :: rest => shown x ++ ',' :: ' ' :: shownElements (y :: rest)

/-- The members of an object, separated by commas. -/
def shownMembers : List (CodeUnits × Json) → List Char
  | [] => []
  | [(k, v)] => Text.quoted k.points ++ ':' :: ' ' :: shown v
  | (k, v) :: m :: rest =>
    Text.quoted k.points ++ ':' :: ' ' :: (shown v ++ ',' :: ' ' :: shownMembers (m :: rest))

end

/-- The text of a value: a text stands for itself, and other values are shown. -/
def plainText : Json → CodeUnits
  | .text s => s
  | value => CodeUnits.ofChars (shown value)

/-- A text stands for itself. -/
@[simp] theorem plainText_text (s : CodeUnits) : plainText (.text s) = s := rfl

end Json

end Calculator
