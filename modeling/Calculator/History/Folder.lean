/-!
# Folders

A folder holds files and folders under names, unless it is missing. Names are kept in increasing
order, and a missing folder is made as soon as something is put into it.

The name of a file has at most `longestFileName` bytes. In a folder that is there, a longer name is
refused. In a missing one nothing is looked up, and only the path as a whole can be too long: `missing`
says how many bytes beyond the longest file name its path leaves.

* `get?_put_self`, `get?_put_of_ne`: what is put under a name is found there, and nothing else
  changes.
-/

namespace Calculator

/-- What stands under a name. -/
inductive Node where
  /-- A file with its bytes. -/
  | file (bytes : List UInt8)
  /-- A folder. -/
  | folder
deriving DecidableEq, Repr

/-- The greatest number of bytes of a file name. -/
def longestFileName : Nat := 255

/-- A folder. -/
inductive Folder where
  /-- No folder is there. Its path leaves some bytes more than the longest file name takes. -/
  | missing (spare : Nat)
  | made (nodes : List (String × Node))
deriving DecidableEq, Repr

namespace Folder

/-- What stands in a folder. -/
def nodes : Folder → List (String × Node)
  | .missing _ => []
  | .made nodes => nodes

/-- The greatest number of bytes of a name that is looked up. -/
def longestName : Folder → Nat
  | .missing spare => longestFileName + spare
  | .made _ => longestFileName

/-- The folder, made if it is missing. -/
def make (folder : Folder) : Folder := .made folder.nodes

/-- What stands under a name among nodes. -/
def find? (name : String) : List (String × Node) → Option Node
  | [] => none
  | (other, node) :: rest => if other = name then some node else find? name rest

/-- What stands under a name. -/
def get? (folder : Folder) (name : String) : Option Node := find? name folder.nodes

/-- Puts a node under a name, in place of what stands there, or before the first greater name. -/
def insert (name : String) (node : Node) : List (String × Node) → List (String × Node)
  | [] => [(name, node)]
  | (other, old) :: rest =>
    if other = name then (name, node) :: rest
    else if name < other then (name, node) :: (other, old) :: rest
    else (other, old) :: insert name node rest

/-- The folder with a node under a name. -/
def put (folder : Folder) (name : String) (node : Node) : Folder :=
  .made (insert name node folder.nodes)

/-- The names and bytes of the files. -/
def files (folder : Folder) : List (String × List UInt8) :=
  folder.nodes.filterMap fun
    | (name, .file bytes) => some (name, bytes)
    | (_, .folder) => none

/-- In every folder the longest name of a file is looked up. -/
theorem longestFileName_le (folder : Folder) : longestFileName ≤ folder.longestName := by
  cases folder with
  | missing spare => exact Nat.le_add_right ..
  | made nodes => exact Nat.le_refl _

/-- Nothing stands in a missing folder. -/
@[simp] theorem get?_missing (spare : Nat) (name : String) :
    (missing spare).get? name = none := rfl

/-- Making a folder leaves what stands in it. -/
@[simp] theorem get?_make (folder : Folder) (name : String) :
    folder.make.get? name = folder.get? name := rfl

/-- What is put under a name is found there. -/
@[simp] theorem get?_put_self (folder : Folder) (name : String) (node : Node) :
    (folder.put name node).get? name = some node := by
  change find? name (insert name node folder.nodes) = some node
  induction folder.nodes with
  | nil => simp [insert, find?]
  | cons entry rest ih =>
    rcases entry with ⟨other, old⟩
    simp only [insert]
    split
    · simp [find?]
    · split
      · simp [find?]
      · simp [find?, *]

/-- Other names are not changed. -/
theorem get?_put_of_ne (folder : Folder) {name other : String} (h : other ≠ name) (node : Node) :
    (folder.put name node).get? other = folder.get? other := by
  change find? other (insert name node folder.nodes) = find? other folder.nodes
  induction folder.nodes with
  | nil => simp [insert, find?, h.symm]
  | cons entry rest ih =>
    rcases entry with ⟨k, old⟩
    simp only [insert]
    split
    · next hk => subst hk; simp [find?, h.symm]
    · split
      · simp [find?, h.symm]
      · simp [find?, ih]

end Folder

end Calculator
