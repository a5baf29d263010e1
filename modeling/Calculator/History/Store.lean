import Calculator.Calendar.Moment
import Calculator.History.Entry
import Calculator.History.Folder
import Calculator.Json.Reading
import Calculator.Json.Writing
import Calculator.Text.Blank
import Calculator.Text.Utf8
import Calculator.Text.Word

/-!
# History stores

The history of a user is one file of a folder. Every change reads the whole file and writes it anew.
A file that is missing, or that is no JSON array, reads as an empty history; entries are appended and
listed newest first.

The folder is one that can be made, read and written, on a disk that is never full, and its path leaves
room for every file name: what permissions, full disks and the path of the folder itself refuse is left
out.
-/

namespace Calculator

/-! ### File names -/

/-- A character of a user name as it stands in a file name. -/
def slugChar (c : Char) : Char :=
  if Text.isWord c ∨ c = '.' ∨ c = '-' then c else '_'

/-- A user name as it stands in a file name. -/
def slug (user : String) : String :=
  match (Text.strip user.toList).map slugChar with
  | [] => "guest"
  | cs => .ofList cs

/-- The name of the file that holds a user's history. -/
def historyFile (user : String) : String := slug user ++ "_history.json"

/-! ### Failures -/

/-- Why a history is not read or written. -/
inductive StoreFailure where
  /-- The file is no text. -/
  | undecodable (error : Text.DecodeError)
  /-- The file holds a whole number with too many digits. -/
  | longInteger (digits : Nat)
  /-- The file holds a value that is nested too deeply. -/
  | tooDeep (isObject : Bool)
  /-- A folder stands in the place of the file. -/
  | folderInPlace
  /-- The name of the file is too long. -/
  | nameTooLong
deriving DecidableEq, Repr

/-! ### Stores -/

/-- The history of a user within a folder. -/
structure Store where
  folder : Folder
  user : String
deriving DecidableEq, Repr

namespace Store

/-- The file of the history. -/
def file (store : Store) : String := historyFile store.user

/-- The number of bytes of a name. -/
def nameLength (name : String) : Nat := (Text.encode name.toList).length

/-- Whether a file of the name can stand in a folder. -/
def isFileName (name : String) : Bool := nameLength name ≤ longestFileName

/-- Whether the file is looked up in the folder. -/
def isLookedUp (store : Store) : Bool := nameLength store.file ≤ store.folder.longestName

/-- The entries that the bytes of a file hold, oldest first. -/
def entriesOfBytes (bytes : List UInt8) : Except StoreFailure (List Entry) :=
  match Text.decode bytes with
  | .error e => .error (.undecodable e)
  | .ok cs =>
    match Json.ofChars cs with
    | .error .malformed => .ok []
    | .error (.longInteger count) => .error (.longInteger count)
    | .error (.tooDeep isObject) => .error (.tooDeep isObject)
    | .ok value => .ok (Entry.ofJson value)

/-- The bytes of a file that holds entries. -/
def bytesOfEntries (entries : List Entry) : List UInt8 :=
  Text.encode (Json.writtenRecords (entries.map Entry.toRecord))

/-- The stored entries, oldest first. -/
def load (store : Store) : Except StoreFailure (List Entry) :=
  if store.isLookedUp then
    match store.folder.get? store.file with
    | some (.file bytes) => entriesOfBytes bytes
    | _ => .ok []
  else .error .nameTooLong

/-- Puts entries in place of the stored ones. The folder is made before the file is written. -/
def save (store : Store) (entries : List Entry) : Store × Except StoreFailure Unit :=
  let made : Store := { store with folder := store.folder.make }
  if isFileName store.file then
    match store.folder.get? store.file with
    | some .folder => (made, .error .folderInPlace)
    | _ =>
      let file : Node := .file (bytesOfEntries entries)
      ({ store with folder := store.folder.put store.file file }, .ok ())
  else (made, .error .nameTooLong)

/-- Appends an entry. -/
def append (store : Store) (entry : Entry) : Store × Except StoreFailure Unit :=
  match store.load with
  | .error failure => (store, .error failure)
  | .ok entries => store.save (entries ++ [entry])

/-- Appends a calculation of the given moment, and gives the entry. -/
def record (store : Store) (now : Moment) (equation result category : String) :
    Store × Except StoreFailure Entry :=
  let entry : Entry := .ofTexts equation result category now.recorded
  match store.append entry with
  | (next, .error failure) => (next, .error failure)
  | (next, .ok ()) => (next, .ok entry)

/-- The entries, newest first. -/
def entries (store : Store) : Except StoreFailure (List Entry) :=
  match store.load with
  | .error failure => .error failure
  | .ok entries => .ok entries.reverse

/-- The entries of a category that match a term, newest first. -/
def search (store : Store) (term : String) (category : Option String) :
    Except StoreFailure (List Entry) :=
  match store.entries with
  | .error failure => .error failure
  | .ok entries => .ok (entries.filter fun e => e.isMatch term && e.isOf category)

/-- Drops every entry. -/
def clear (store : Store) : Store × Except StoreFailure Unit := store.save []

end Store

end Calculator
