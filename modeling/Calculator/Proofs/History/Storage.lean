import Calculator.History.Store
import Calculator.Proofs.Json.Records
import Calculator.Proofs.Text.Utf8

/-!
# What is stored is read back

The bytes of a history file hold the entries that were written
(`Store.entriesOfBytes_bytesOfEntries`), so a store that is saved loads the entries that were
saved (`Store.load_save`). It is saved unless the name of its file is too long or a folder stands
in the place of the file.
-/

namespace Calculator

namespace Entry

/-- The members of the object that an entry is stored as. -/
lemma membersOnto_toRecord (e : Entry) :
    Json.membersOnto [] e.toRecord =
      e.toRecord.map fun m => (CodeUnits.ofString m.1, Json.text m.2) := by
  simp [Json.membersOnto, toRecord, Json.putMember, CodeUnits.ofString_inj]

/-- Entries are read back from the objects that they are stored as. -/
lemma ofJson_ofRecord (es : List Entry) :
    ofJson (.array ((es.map toRecord).map Json.ofRecord)) = es := by
  induction es with
  | nil => rfl
  | cons e es ih =>
    simp only [ofJson, List.map_cons, Json.ofRecord] at ih ⊢
    rw [List.filterMap_cons]
    simp only [membersOnto_toRecord, ofMembers_toRecord]
    rw [ih]

end Entry

namespace Store

/-- The bytes of a history file hold the entries that were written. -/
theorem entriesOfBytes_bytesOfEntries (es : List Entry) :
    entriesOfBytes (bytesOfEntries es) = .ok es := by
  have hne : ∀ record ∈ es.map Entry.toRecord, record ≠ [] := by
    intro record hmem
    obtain ⟨e, -, rfl⟩ := List.mem_map.mp hmem
    simp [Entry.toRecord]
  simp only [entriesOfBytes, bytesOfEntries, Text.decode_encode, Json.ofChars_writtenRecords _ hne,
    Entry.ofJson_ofRecord]

/-- A user name that is too long makes the name of the file too long. -/
lemma not_isFileName_of_long_user {user : String}
    (h : longestFileName < (Text.strip user.toList).length) :
    isFileName (historyFile user) = false := by
  have hslug : (Text.strip user.toList).length ≤ (slug user).toList.length := by
    unfold slug
    split
    · next hnil =>
      rw [List.map_eq_nil_iff.mp hnil]
      exact Nat.zero_le _
    · apply Nat.le_of_eq
      rw [String.toList_ofList, List.length_map]
  have hname := Text.length_le_encode (historyFile user).toList
  simp only [historyFile, String.toList_append, List.length_append] at hname
  simp only [isFileName, nameLength, historyFile, String.toList_append, decide_eq_false_iff_not,
    Nat.not_le]
  omega

/-- A user name that leaves room in the path of a missing folder is looked up there. -/
lemma isLookedUp_missing {user : String} {spare : Nat}
    (h : 4 * ((Text.strip user.toList).length + 18) ≤ longestFileName + spare) :
    isLookedUp ⟨.missing spare, user⟩ = true := by
  have hslug : (slug user).toList.length ≤ (Text.strip user.toList).length + 5 := by
    unfold slug
    split
    · exact Nat.le_add_left ..
    · rw [String.toList_ofList, List.length_map]
      exact Nat.le_add_right ..
  have hname := Text.length_encode_le (historyFile user).toList
  have hending : "_history.json".toList.length = 13 := by decide
  simp only [historyFile, String.toList_append, List.length_append] at hname
  simp only [isLookedUp, nameLength, file, historyFile, String.toList_append, Folder.longestName,
    decide_eq_true_eq]
  omega

/-- What is loaded under a name that is not too long depends on what stands under it alone. -/
lemma load_of_name (store : Store) (hname : isFileName store.file = true) :
    store.load =
      match store.folder.get? store.file with
      | some (.file bytes) => entriesOfBytes bytes
      | _ => .ok [] :=
  if_pos (decide_eq_true
    (Nat.le_trans (of_decide_eq_true hname) store.folder.longestFileName_le))

/-- The entries of a file are loaded from its bytes. -/
lemma load_of_file (store : Store) {bytes : List UInt8} (hname : isFileName store.file = true)
    (hfile : store.folder.get? store.file = some (.file bytes)) :
    store.load = entriesOfBytes bytes := by
  rw [load_of_name store hname, hfile]

/-- Nothing is loaded from a file whose name is too long. -/
lemma load_of_long_name {user : String} (nodes : List (String × Node))
    (hname : isFileName (historyFile user) = false) :
    load ⟨.made nodes, user⟩ = .error .nameTooLong :=
  if_neg (by rw [Bool.not_eq_true]; exact hname)

/-- Nothing is loaded from a missing folder where the name is looked up. -/
lemma load_missing {user : String} {spare : Nat}
    (looked : isLookedUp ⟨.missing spare, user⟩ = true) : load ⟨.missing spare, user⟩ = .ok [] := by
  simp only [load, looked, if_true, Folder.get?_missing]

/-- Under a name that is too long nothing is loaded if the name is looked up, which then is in a
missing folder, and otherwise loading is refused. -/
lemma load_cases_of_long_name {store : Store} (hname : isFileName store.file = false) :
    store.isLookedUp = true ∧ store.load = .ok [] ∨
      store.isLookedUp = false ∧ store.load = .error .nameTooLong := by
  obtain ⟨folder, user⟩ := store
  cases hlooked : isLookedUp ⟨folder, user⟩ with
  | false =>
    refine Or.inr ⟨rfl, ?_⟩
    simp only [load, hlooked, Bool.false_eq_true, if_false]
  | true =>
    cases folder with
    | missing spare => exact Or.inl ⟨rfl, load_missing hlooked⟩
    | made nodes => cases hname.symm.trans hlooked

/-- Saving puts the entries into the file, unless its name is too long or a folder stands there. -/
lemma save_eq {store : Store} (es : List Entry) (hname : isFileName store.file = true)
    (hplace : store.folder.get? store.file ≠ some .folder) :
    store.save es =
      ({ store with folder := store.folder.put store.file (.file (bytesOfEntries es)) },
        .ok ()) := by
  unfold save
  simp only [hname, if_true]

/-- Nothing is saved in a file whose name is too long. -/
lemma save_of_long_name {store : Store} (es : List Entry) (hname : isFileName store.file = false) :
    store.save es = ({ store with folder := store.folder.make }, .error .nameTooLong) := by
  simp only [save, hname, Bool.false_eq_true, if_false]

/-- The entries that were saved are loaded. -/
lemma load_save {store : Store} (es : List Entry) (hname : isFileName store.file = true)
    (hplace : store.folder.get? store.file ≠ some .folder) : (store.save es).1.load = .ok es := by
  have hfile := Folder.get?_put_self store.folder store.file (.file (bytesOfEntries es))
  rw [save_eq es hname hplace, load_of_file ⟨store.folder.put store.file _, store.user⟩ hname hfile]
  exact entriesOfBytes_bytesOfEntries es

end Store

end Calculator
