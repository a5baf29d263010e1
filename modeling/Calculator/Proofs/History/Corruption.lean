import Calculator.Proofs.History.Storage
import Calculator.Proofs.Json.Faults

/-!
# What any file is read as

A history file may hold any bytes. `Store.entries_of_file` says what each of them is read as: a text
that is no JSON, or a value that is no array, is an empty history; an array is the history of its
objects; and three kinds of files are refused (`Store.FileReading`): bytes that are no text, a whole
number with too many digits, and values that lie too deep within each other.

A file that is refused is refused by a search as well. There are such files
(`Store.entries_fail_for_stray_byte`).
-/

namespace Calculator

/-- No entries are read from a value that is no array. -/
lemma Entry.ofJson_eq_nil {value : Json} (h : ∀ elements, value ≠ .array elements) :
    Entry.ofJson value = [] := by
  cases value with
  | array elements => exact absurd rfl (h elements)
  | _ => rfl

namespace Store

/-- What the bytes of a history file are read as: the entries, newest first, or a failure. -/
inductive FileReading (bytes : List UInt8) : Except StoreFailure (List Entry) → Prop
  | noText {error : Text.DecodeError} (text : ∀ cs, bytes ≠ Text.encode cs) :
      FileReading bytes (.error (.undecodable error))
  | noJson {cs : List Char} (text : bytes = Text.encode cs)
      (json : Json.ofChars cs = .error .malformed) : FileReading bytes (.ok [])
  | longInteger {cs ds : List Char} (text : bytes = Text.encode cs)
      (json : Json.ofChars cs = .error (.longInteger ds.length)) (run : ds <:+: cs)
      (digits : ∀ c ∈ ds, c.isDigit = true) (long : Json.longestInteger < ds.length) :
      FileReading bytes (.error (.longInteger ds.length))
  | tooDeep {cs : List Char} {isObject : Bool} (text : bytes = Text.encode cs)
      (json : Json.ofChars cs = .error (.tooDeep isObject))
      (deep : Json.deepestNesting < Json.openings cs) :
      FileReading bytes (.error (.tooDeep isObject))
  | noArray {cs : List Char} {value : Json} (text : bytes = Text.encode cs)
      (json : Json.ofChars cs = .ok value) (noArray : ∀ elements, value ≠ .array elements) :
      FileReading bytes (.ok [])
  | array {cs : List Char} {elements : List Json} (text : bytes = Text.encode cs)
      (json : Json.ofChars cs = .ok (.array elements)) :
      FileReading bytes (.ok (Entry.ofJson (.array elements)).reverse)

/-- All bytes are read as something. -/
lemma fileReading_entriesOfBytes (bytes : List UInt8) :
    FileReading bytes ((entriesOfBytes bytes).map List.reverse) := by
  unfold entriesOfBytes
  cases hdecode : Text.decode bytes with
  | error e =>
    refine .noText fun cs hcs => ?_
    cases hdecode.symm.trans ((Text.decode_eq_ok_iff bytes cs).mpr hcs)
  | ok cs =>
    have htext : bytes = Text.encode cs := (Text.decode_eq_ok_iff bytes cs).mp hdecode
    simp only
    cases hjson : Json.ofChars cs with
    | error fault =>
      have hexcess := Json.excess_of_ofChars hjson
      cases hexcess with
      | malformed => exact .noJson htext hjson
      | longInteger run digits long => exact .longInteger htext hjson run digits long
      | tooDeep deep => exact .tooDeep htext hjson deep
    | ok value =>
      by_cases harray : ∃ elements, value = .array elements
      · obtain ⟨elements, rfl⟩ := harray
        exact .array htext hjson
      · have hno : ∀ elements, value ≠ .array elements := fun elements h => harray ⟨elements, h⟩
        simp only [Entry.ofJson_eq_nil hno]
        exact .noArray htext hjson hno

/-- The entries of a store are what its file is read as, and a search selects among them. -/
theorem entries_of_file {store : Store} {bytes : List UInt8} (hname : isFileName store.file = true)
    (hfile : store.folder.get? store.file = some (.file bytes)) :
    FileReading bytes store.entries ∧
      ∀ term category, store.search term category =
        store.entries.map (List.filter fun e => e.isMatch term && e.isOf category) := by
  have hentries : store.entries = (entriesOfBytes bytes).map List.reverse := by
    rw [entries, load_of_file store hname hfile]
    cases entriesOfBytes bytes <;> rfl
  refine ⟨hentries ▸ fileReading_entriesOfBytes bytes, fun term category => ?_⟩
  rw [search]
  cases store.entries <;> rfl

/-- A store whose file is one byte that begins no character. -/
def strayByte : Store := ⟨.made [("tester_history.json", .file [0xFF])], "tester"⟩

/-- The file of one byte that begins no character is read as something. -/
theorem entries_of_file_stray_byte :
    isFileName strayByte.file = true ∧
      strayByte.folder.get? strayByte.file = some (.file [0xFF]) ∧
      FileReading [0xFF] strayByte.entries := by
  have hname : isFileName strayByte.file = true := by decide +kernel
  have hfile : strayByte.folder.get? strayByte.file = some (.file [0xFF]) := by decide +kernel
  exact ⟨hname, hfile, (entries_of_file hname hfile).1⟩

/-- The file of one byte that begins no character is not read as an empty history. -/
theorem entries_fail_for_stray_byte :
    strayByte.entries = .error (.undecodable ⟨0, 0xFF, 1, .start⟩) ∧
      strayByte.search "" none = .error (.undecodable ⟨0, 0xFF, 1, .start⟩) := by
  decide +kernel

end Store

end Calculator
