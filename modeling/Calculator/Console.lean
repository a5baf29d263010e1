import Calculator.Text.Units

/-!
# The console

What is shown besides plain results: lines and tables, in the order in which they are shown. Styles
are marked in brackets within the texts. A console refuses a text whose marks do not fit together, such
as one that closes a style which is not open; nothing of the item is shown then.

The console is not part of the calculator. A `Console` says what it refuses, and the one thing that is
relied on is `Console.legible`: texts without marks are shown, and so is a part of a text that stands
between the marks of a style.
-/

namespace Calculator

/-! ### Items -/

/-- A table with a title, the heads of its columns, and its rows. -/
structure Table where
  title : String
  columns : List String
  rows : List (List CodeUnits)
deriving DecidableEq, Repr

/-- Something shown on the console. -/
inductive ConsoleItem where
  | line (text : String)
  /-- A text in which nothing is a mark. -/
  | verbatim (text : String)
  | table (t : Table)
deriving DecidableEq, Repr

/-- The texts of the columns of a table, one column after the other. -/
def Table.columnTexts (table : Table) : List CodeUnits :=
  (table.columns.mapIdx fun i head => .ofString head :: table.rows.filterMap (·[i]?)).flatten

/-- The texts of a table in the order in which their marks are read. -/
def Table.texts (table : Table) : List CodeUnits := table.columnTexts ++ [.ofString table.title]

/-- The texts of an item in which marks are read. -/
def ConsoleItem.texts : ConsoleItem → List CodeUnits
  | .line text => [.ofString text]
  | .verbatim _ => []
  | .table t => t.texts

/-! ### Marks -/

/-- The text of a mark that opens a style. -/
def openingMark (style : String) : String := "[" ++ style ++ "]"

/-- The text of a mark that closes a style. -/
def closingMark (style : String) : String := "[/" ++ style ++ "]"

/-- A part of a text in a style. -/
def styled (style part : String) : String := openingMark style ++ part ++ closingMark style

/-- The unit of the bracket that begins a mark. -/
def markUnit : UInt16 := 0x5B

/-- Whether a style is named by small letters alone. -/
def isStyleName (style : String) : Bool :=
  style ≠ "" && style.toList.all fun c => 'a' ≤ c && c ≤ 'z'

/-- Whether the marks of a text fit together without doubt: it has none, or one style is opened after
blanks and closed again. -/
inductive Legible : CodeUnits → Prop
  | plain {text : CodeUnits} (unmarked : markUnit ∉ text) : Legible text
  | styled {blanks style : String} {part rest : CodeUnits}
      (blank : ∀ c ∈ blanks.toList, c = ' ') (name : isStyleName style = true)
      (part_unmarked : markUnit ∉ part) (rest_unmarked : markUnit ∉ rest) :
      Legible (.ofString (blanks ++ openingMark style) ++ part ++
        .ofString (closingMark style) ++ rest)

/-- Why a text is refused. -/
structure MarkError where
  message : String
deriving DecidableEq, Repr

/-- A console, by the texts that it refuses. -/
structure Console where
  refusal? : CodeUnits → Option MarkError
  legible : ∀ {text}, Legible text → refusal? text = none

namespace Console

/-- A console that refuses nothing. -/
def tolerant : Console := ⟨fun _ => none, fun _ => rfl⟩

/-- Why an item is refused: for the first of its texts that is. -/
def refusalOf? (console : Console) (item : ConsoleItem) : Option MarkError :=
  item.texts.findSome? console.refusal?

/-- Shows items up to the first that is refused: what is shown, and why the next item is not. -/
def print (console : Console) : List ConsoleItem → List ConsoleItem × Option MarkError
  | [] => ([], none)
  | item :: rest =>
    match console.refusalOf? item with
    | some error => ([], some error)
    | none =>
      let (shown, error) := console.print rest
      (item :: shown, error)

end Console

end Calculator
