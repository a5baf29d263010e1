import Calculator.Proofs.History.Refusals

/-!
# Appending to any history

A history may be missing, hold any bytes, or have a folder in its place. Whatever it is, a
calculation that is recorded comes in front of the entries that were listed before, also where these
were read from values that no store has written; and a calculation that is refused leaves everything
under every name as it was (`Store.entries_of_record`). It is refused just when no file can be put
in the place of the history (`Store.IsWritable`) or the entries cannot be listed. A history that is
cleared lists nothing.
-/

namespace Calculator

namespace Store

/-! ### Listing -/

/-- Entries are listed just when they are loaded, the newest first. -/
lemma entries_eq_ok_iff (store : Store) (es : List Entry) :
    store.entries = .ok es ↔ ∃ kept, store.load = .ok kept ∧ es = kept.reverse := by
  unfold entries
  cases store.load with
  | error failure => simp
  | ok kept => simp [eq_comm]

/-- Whether a file can be put in the place of the history: its name is not too long, and no folder
stands there. -/
def IsWritable (store : Store) : Prop :=
  isFileName store.file = true ∧ store.folder.get? store.file ≠ some .folder

/-- A store holds its entries, so that more can be saved, just when it is writable. -/
lemma holds_iff (store : Store) (kept : List Entry) :
    store.Holds kept ↔ store.IsWritable ∧ store.load = .ok kept :=
  ⟨fun h => ⟨⟨h.name, h.place⟩, h.load⟩, fun ⟨⟨hname, hplace⟩, hload⟩ => ⟨hname, hplace, hload⟩⟩

/-! ### Recording -/

/-- An entry that is appended is listed in front of those that were listed before. -/
lemma Appends.entries {store next : Store} {entry recorded : Entry}
    (h : store.Appends entry next (.ok recorded)) :
    recorded = entry ∧ ∃ es, store.entries = .ok es ∧ next.entries = .ok (entry :: es) := by
  cases h with
  | @appended kept holds =>
    have hload : Store.load { store with
        folder := store.folder.put store.file (.file (bytesOfEntries (kept ++ [entry]))) } =
        .ok (kept ++ [entry]) := (holds.put _).load
    refine ⟨rfl, kept.reverse, ?_, ?_⟩
    · exact (entries_eq_ok_iff _ _).mpr ⟨kept, holds.load, rfl⟩
    · refine (entries_eq_ok_iff _ _).mpr ⟨_, hload, ?_⟩
      rw [List.reverse_append, List.reverse_singleton, List.singleton_append]

/-- A calculation is recorded just when the store is writable and its entries are listed. -/
lemma exists_record_eq_ok_iff (store : Store) (now : Moment) (equation result category : String) :
    (∃ next entry, store.record now equation result category = (next, .ok entry)) ↔
      store.IsWritable ∧ ∃ es, store.entries = .ok es := by
  constructor
  · rintro ⟨next, entry, hrecord⟩
    have happends := store.appends_record now equation result category
    rw [hrecord] at happends
    cases happends with
    | appended holds =>
      obtain ⟨hwritable, hload⟩ := (store.holds_iff _).mp holds
      exact ⟨hwritable, _, (store.entries_eq_ok_iff _).mpr ⟨_, hload, rfl⟩⟩
  · rintro ⟨hwritable, es, hentries⟩
    obtain ⟨kept, hload, -⟩ := (store.entries_eq_ok_iff es).mp hentries
    have hholds : store.Holds kept := (store.holds_iff kept).mpr ⟨hwritable, hload⟩
    exact ⟨_, _, hholds.record now equation result category⟩

/-! ### Clearing -/

/-- A history is cleared just when the store is writable. -/
lemma exists_clear_eq_ok_iff (store : Store) :
    (∃ next, store.clear = (next, .ok ())) ↔ store.IsWritable := by
  constructor
  · rintro ⟨next, hclear⟩
    rcases store.save_cases [] with ⟨hname, hplace, -⟩ | ⟨failure, hsave⟩
    · exact ⟨hname, hplace⟩
    · cases hclear.symm.trans hsave
  · rintro ⟨hname, hplace⟩
    exact ⟨_, save_eq [] hname hplace⟩

/-- A history that is cleared lists nothing. -/
lemma entries_of_clear {store next : Store} (h : store.clear = (next, .ok ())) :
    next.entries = .ok [] := by
  obtain ⟨hname, hplace⟩ := store.exists_clear_eq_ok_iff.mp ⟨next, h⟩
  have hload : (store.save []).1.load = .ok [] := load_save [] hname hplace
  have hnext : (store.save []).1 = next := congrArg Prod.fst h
  rw [hnext] at hload
  exact (next.entries_eq_ok_iff []).mpr ⟨[], hload, rfl⟩

/-! ### Any history -/

/-- Whatever stands in the place of the history: a calculation that is recorded is listed in front
of what was listed before, and if it is refused, every file and folder is as it was. It is recorded
just when the store is writable and its entries are listed. A history that is cleared lists nothing,
it is cleared just when the store is writable, and otherwise every file and folder is as it was. -/
theorem entries_of_record (store : Store) :
    (∀ now equation result category,
      (∀ next entry, store.record now equation result category = (next, .ok entry) →
        entry = .ofTexts equation result category now.recorded ∧
          ∃ es, store.entries = .ok es ∧ next.entries = .ok (entry :: es)) ∧
      (∀ next failure, store.record now equation result category = (next, .error failure) →
        ∀ name, next.folder.get? name = store.folder.get? name) ∧
      ((∃ next entry, store.record now equation result category = (next, .ok entry)) ↔
        store.IsWritable ∧ ∃ es, store.entries = .ok es)) ∧
    (∀ next, store.clear = (next, .ok ()) → next.entries = .ok []) ∧
    (∀ next failure, store.clear = (next, .error failure) →
      ∀ name, next.folder.get? name = store.folder.get? name) ∧
    ((∃ next, store.clear = (next, .ok ())) ↔ store.IsWritable) := by
  refine ⟨fun now equation result category => ⟨?_, ?_, ?_⟩, ?_, ?_, ?_⟩
  · intro next entry hrecord
    have happends := store.appends_record now equation result category
    rw [hrecord] at happends
    obtain ⟨rfl, es, hbefore, hafter⟩ := happends.entries
    exact ⟨rfl, es, hbefore, hafter⟩
  · intro next failure hrecord
    exact (refused_record hrecord).get?
  · exact store.exists_record_eq_ok_iff now equation result category
  · intro next hclear
    exact entries_of_clear hclear
  · intro next failure hclear
    exact (refused_save hclear).get?
  · exact store.exists_clear_eq_ok_iff

end Store

end Calculator
