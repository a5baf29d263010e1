import Calculator.Json
import Calculator.Text.Lowercase
import Calculator.Text.Occurrence

/-!
# History entries

A recorded calculation: what was calculated, the result, the kind of calculation and when. An entry
is stored as a record of four texts, and read from any object: a member that is missing has its
default, and one that is no text is shown as a text.
-/

namespace Calculator

/-- The kinds of calculations that are recorded. -/
inductive RecordKind where
  | standard
  | scientific
  | conversion
deriving DecidableEq, Repr

namespace RecordKind

/-- All kinds. -/
def all : List RecordKind := [.standard, .scientific, .conversion]

/-- The name of a kind. -/
def name : RecordKind → String
  | .standard => "standard"
  | .scientific => "scientific"
  | .conversion => "conversion"

/-- The kind of a name. -/
def ofName? (name : String) : Option RecordKind := all.find? (·.name = name)

/-- The names of the kinds. -/
def names : List String := all.map name

end RecordKind

/-- A recorded calculation. Its category is the name of a kind, or whatever text was stored. -/
structure Entry where
  equation : CodeUnits
  result : CodeUnits
  category : CodeUnits
  timestamp : CodeUnits
deriving DecidableEq, Repr

namespace Entry

/-- The entry of four texts. -/
def ofTexts (equation result category timestamp : String) : Entry :=
  ⟨CodeUnits.ofString equation, CodeUnits.ofString result, CodeUnits.ofString category,
    CodeUnits.ofString timestamp⟩

/-- The category of an entry that is stored without one. -/
def defaultCategory : String := RecordKind.standard.name

/-- The record of an entry. -/
def toRecord (e : Entry) : List (String × CodeUnits) :=
  [("equation", e.equation), ("result", e.result), ("category", e.category),
    ("timestamp", e.timestamp)]

/-- The text of a member, or its default. -/
def field (members : List (CodeUnits × Json)) (key default : String) : CodeUnits :=
  ((Json.member? (CodeUnits.ofString key) members).map Json.plainText).getD (CodeUnits.ofString default)

/-- The entry of the members of an object. -/
def ofMembers (members : List (CodeUnits × Json)) : Entry where
  equation := field members "equation" ""
  result := field members "result" ""
  category := field members "category" defaultCategory
  timestamp := field members "timestamp" ""

/-- The entries of a stored value: those of the objects of an array, and none of any other value. -/
def ofJson : Json → List Entry
  | .array elements => elements.filterMap fun
    | .object members => some (ofMembers members)
    | _ => none
  | _ => []

/-- Whether a term stands in the equation or the result, both in small letters. -/
def isMatch (e : Entry) (term : String) : Bool :=
  let small := Text.lower (CodePoint.ofString term)
  Text.occursIn small (Text.lower e.equation.points) ||
    Text.occursIn small (Text.lower e.result.points)

/-- The category that selects every entry. -/
def anyCategory : String := "all"

/-- Whether an entry is of a category; no category and `all` select every entry. -/
def isOf (e : Entry) (category : Option String) : Bool :=
  match category with
  | none => true
  | some name => name = anyCategory || e.category = CodeUnits.ofString name

/-- An entry is read back from its record. -/
theorem ofMembers_toRecord (e : Entry) :
    ofMembers (e.toRecord.map fun m => (CodeUnits.ofString m.1, .text m.2)) = e := by
  cases e
  simp [ofMembers, toRecord, field, Json.member?, CodeUnits.ofString_inj]

end Entry

end Calculator
