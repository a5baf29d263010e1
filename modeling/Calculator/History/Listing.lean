import Calculator.Calendar.Reading
import Calculator.Console
import Calculator.History.Entry

/-!
# Listing the history

Entries are listed in a table, one row each.
-/

namespace Calculator

/-- A time stamp as it is listed. One that is not read as a moment is listed as it is, or as two
hyphens if it is empty. -/
def listedTimestamp (timestamp : CodeUnits) : CodeUnits :=
  match Moment.ofPoints? timestamp.points with
  | some moment => CodeUnits.ofString moment.listed
  | none => if timestamp = [] then CodeUnits.ofString "--" else timestamp

/-- The style of a kind. -/
def RecordKind.style : RecordKind → String
  | .standard => "green"
  | .scientific => "cyan"
  | .conversion => "yellow"

/-- The style of a category; categories that are no kinds are white. -/
def categoryStyle (category : CodeUnits) : String :=
  ((RecordKind.all.find? (CodeUnits.ofString ·.name = category)).map (·.style)).getD "white"

/-- The row of an entry. -/
def Entry.row (e : Entry) : List CodeUnits :=
  let style := categoryStyle e.category
  let opening := CodeUnits.ofString (openingMark style)
  let closing := CodeUnits.ofString (closingMark style)
  [listedTimestamp e.timestamp, opening ++ e.category ++ closing, e.equation, e.result]

/-- The table of entries under a title. -/
def entryTable (title : String) (entries : List Entry) : Table where
  title := title
  columns := ["When", "Category", "Equation", "Result"]
  rows := entries.map Entry.row

/-- What is said when there are no entries. -/
def noneRecorded : ConsoleItem := .line (styled "yellow" "No calculations recorded.")

/-- What is shown of entries under a title: their table between two empty lines, or that there are
none. -/
def listEntries (title : String) (entries : List Entry) : List ConsoleItem :=
  if entries = [] then [noneRecorded]
  else [.line "", .table (entryTable title entries), .line ""]

end Calculator
