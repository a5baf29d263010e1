/-!
# Paths

A path is a root, which is empty for a relative path, and the names that follow. Two leading slashes
make a root of their own; otherwise slashes in a row count as one, and names that are a single dot
are left out.
-/

namespace Calculator

/-- A path. -/
structure Path where
  root : String
  names : List String
deriving DecidableEq, Repr

namespace Path

/-- The names between the slashes of a text, read onto the name that is begun, in reverse. -/
def splitNames (begun : List Char) : List Char → List (List Char)
  | [] => [begun.reverse]
  | c :: rest =>
    if c = '/' then begun.reverse :: splitNames [] rest else splitNames (c :: begun) rest

/-- Whether a name is part of a path. -/
def isName (name : List Char) : Bool := name ≠ [] ∧ name ≠ ['.']

/-- The root of a text. -/
def rootOf : List Char → String
  | '/' :: '/' :: '/' :: _ => "/"
  | '/' :: '/' :: _ => "//"
  | '/' :: _ => "/"
  | _ => ""

/-- The path of a text. -/
def ofText (text : String) : Path where
  root := rootOf text.toList
  names := ((splitNames [] text.toList).filter isName).map .ofList

/-- The text of a path. The relative path without names is a single dot. -/
def text (path : Path) : String :=
  if path.root = "" ∧ path.names = [] then "." else path.root ++ "/".intercalate path.names

/-- The path with further names below it. -/
def below (path : Path) (names : List String) : Path := ⟨path.root, path.names ++ names⟩

end Path

end Calculator
