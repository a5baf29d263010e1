import Calculator.Proofs.History.Runs

/-!
# What a call changes in a folder

A call on a history changes at most the file of its user: every other name of the folder keeps what
stands under it (`Store.keeps_call`). A calculation is recorded by a store that holds entries, and
then its file holds one entry more; when it is refused, every file is left as it was
(`Store.appends_record`).
-/

namespace Calculator

namespace Store

/-! ### Saving -/

/-- Nothing is saved where a folder stands. -/
lemma save_of_folder {store : Store} (es : List Entry) (hname : isFileName store.file = true)
    (hplace : store.folder.get? store.file = some .folder) :
    store.save es = ({ store with folder := store.folder.make }, .error .folderInPlace) := by
  unfold save
  simp only [hname, if_true, hplace]

/-- Entries are saved in the file of the history, or they are refused and the folder is made. -/
lemma save_cases (store : Store) (es : List Entry) :
    (isFileName store.file = true ∧ store.folder.get? store.file ≠ some .folder ∧
      store.save es =
        ({ store with folder := store.folder.put store.file (.file (bytesOfEntries es)) },
          .ok ())) ∨
    ∃ failure, store.save es = ({ store with folder := store.folder.make }, .error failure) := by
  cases hname : isFileName store.file with
  | false => exact Or.inr ⟨_, save_of_long_name es hname⟩
  | true =>
    by_cases hplace : store.folder.get? store.file = some .folder
    · exact Or.inr ⟨_, save_of_folder es hname hplace⟩
    · exact Or.inl ⟨rfl, hplace, save_eq es hname hplace⟩

/-- A store with the user of another one, in whose folder only what stands under the name of the
user's file may differ, and no longer names are looked up than in the other folder. -/
structure Keeps (store next : Store) : Prop where
  user : next.user = store.user
  nodes : ∀ name, name ≠ store.file → next.folder.get? name = store.folder.get? name
  longest : next.folder.longestName ≤ store.folder.longestName

/-- A store keeps everything of itself. -/
lemma Keeps.refl (store : Store) : store.Keeps store := ⟨rfl, fun _ _ => rfl, Nat.le_refl _⟩

/-- What is kept twice is kept. -/
lemma Keeps.trans {store next last : Store} (h : store.Keeps next) (h' : next.Keeps last) :
    store.Keeps last where
  user := h'.user.trans h.user
  nodes name hne := by
    have hfile : next.file = store.file := congrArg historyFile h.user
    rw [h'.nodes name (hfile.symm ▸ hne), h.nodes name hne]
  longest := Nat.le_trans h'.longest h.longest

/-- Putting something under the name of the file keeps the rest. -/
lemma keeps_put (store : Store) (node : Node) :
    store.Keeps { store with folder := store.folder.put store.file node } where
  user := rfl
  nodes _ hne := Folder.get?_put_of_ne store.folder hne node
  longest := store.folder.longestFileName_le

/-- Making the folder keeps everything. -/
lemma keeps_of_made {store : Store} {folder : Folder}
    (h : folder = store.folder ∨ folder = store.folder.make) :
    store.Keeps { store with folder } := by
  rcases h with rfl | rfl
  · exact .refl store
  · exact ⟨rfl, fun name _ => Folder.get?_make store.folder name,
      store.folder.longestFileName_le⟩

/-- Saving keeps the rest of the folder. -/
lemma keeps_save (store : Store) (es : List Entry) : store.Keeps (store.save es).1 := by
  rcases store.save_cases es with ⟨-, -, hsave⟩ | ⟨failure, hsave⟩
  · rw [hsave]
    exact store.keeps_put _
  · rw [hsave]
    exact keeps_of_made (Or.inr rfl)

/-- A store whose entries are replaced holds the new ones. -/
lemma Holds.put {store : Store} {kept : List Entry} (h : store.Holds kept) (es : List Entry) :
    Holds { store with folder := store.folder.put store.file (.file (bytesOfEntries es)) } es := by
  obtain ⟨next, hsave, hnext⟩ := h.save es
  rw [save_eq es h.name h.place] at hsave
  obtain ⟨rfl, -⟩ := Prod.mk.inj hsave
  exact hnext

/-! ### Recording -/

/-- What recording does to a store: the entry is appended to those that the store holds, or it is
refused and the folder is made at most. -/
inductive Appends (store : Store) (entry : Entry) : Store → Except StoreFailure Entry → Prop
  | appended {kept : List Entry} (holds : store.Holds kept) :
      Appends store entry
        { store with
          folder := store.folder.put store.file (.file (bytesOfEntries (kept ++ [entry]))) }
        (.ok entry)
  | refused {folder : Folder} {failure : StoreFailure}
      (made : folder = store.folder ∨ folder = store.folder.make) :
      Appends store entry { store with folder } (.error failure)

/-- A calculation is appended or refused. -/
theorem appends_record (store : Store) (now : Moment) (equation result category : String) :
    store.Appends (.ofTexts equation result category now.recorded)
      (store.record now equation result category).1
      (store.record now equation result category).2 := by
  unfold record append
  cases hload : store.load with
  | error failure => exact .refused (Or.inl rfl)
  | ok kept =>
    rcases store.save_cases (kept ++ [.ofTexts equation result category now.recorded]) with
      ⟨hname, hplace, hsave⟩ | ⟨failure, hsave⟩
    · simp only [hsave]
      exact .appended ⟨hname, hplace, hload⟩
    · simp only [hsave]
      exact .refused (Or.inr rfl)

/-- A store that holds entries records every calculation. -/
lemma Holds.record {store : Store} {kept : List Entry} (h : store.Holds kept) (now : Moment)
    (equation result category : String) :
    store.record now equation result category =
      ({ store with
          folder := store.folder.put store.file (.file (bytesOfEntries
            (kept ++ [.ofTexts equation result category now.recorded]))) },
        .ok (.ofTexts equation result category now.recorded)) := by
  simp only [Store.record, append, h.load, save_eq _ h.name h.place]

/-- No calculation is recorded under a name that is too long. -/
lemma record_of_long_name {store : Store} (hname : isFileName store.file = false) (now : Moment)
    (equation result category : String) :
    ∃ folder, (folder = store.folder ∨ folder = store.folder.make) ∧
      store.record now equation result category = ({ store with folder }, .error .nameTooLong) := by
  unfold record append
  rcases load_cases_of_long_name hname with ⟨-, hload⟩ | ⟨-, hload⟩
  · refine ⟨store.folder.make, Or.inr rfl, ?_⟩
    simp only [hload, save_of_long_name _ hname]
  · refine ⟨store.folder, Or.inl rfl, ?_⟩
    simp only [hload]

/-! ### Growing -/

/-- A store that holds entries, after further entries were appended one after the other. -/
inductive Grows (store : Store) (kept : List Entry) : List Entry → Store → Prop
  | same : Grows store kept [] store
  | appended (es : List Entry) :
      Grows store kept es
        { store with folder := store.folder.put store.file (.file (bytesOfEntries (kept ++ es))) }

/-- Growing keeps the rest of the folder. -/
lemma Grows.keeps {store next : Store} {kept es : List Entry} (h : store.Grows kept es next) :
    store.Keeps next := by
  cases h with
  | same => exact .refl store
  | appended => exact store.keeps_put _

/-- All entries are held. -/
lemma Grows.holds {store next : Store} {kept es : List Entry} (h : store.Grows kept es next)
    (holds : store.Holds kept) : next.Holds (kept ++ es) := by
  cases h with
  | same => rwa [List.append_nil]
  | appended => exact holds.put _

/-! ### Calls -/

/-- The call that records a calculation changes the store as recording does. -/
lemma call_record (store : Store) (now : Moment) (equation result category : String) :
    (store.call (.record now equation result category)).1 =
      (store.record now equation result category).1 := by
  simp only [call]
  rcases store.record now equation result category with ⟨next, failure | entry⟩ <;> rfl

/-- The call that clears the history changes the store as saving no entries does. -/
lemma call_clear (store : Store) : (store.call .clear).1 = (store.save []).1 := by
  simp only [call, clear]
  rcases store.save [] with ⟨next, failure | ⟨⟩⟩ <;> rfl

/-- Recording keeps the rest of the folder. -/
lemma Appends.keeps {store next : Store} {entry : Entry} {answer : Except StoreFailure Entry}
    (h : store.Appends entry next answer) : store.Keeps next := by
  cases h with
  | appended holds => exact store.keeps_put _
  | refused made => exact keeps_of_made made

/-- Every call keeps the rest of the folder. -/
theorem keeps_call (store : Store) (call : HistoryCall) : store.Keeps (store.call call).1 := by
  cases call with
  | record now equation result category =>
    rw [call_record]
    exact (store.appends_record now equation result category).keeps
  | clear =>
    rw [call_clear]
    exact store.keeps_save []
  | entries | search => exact .refl store

end Store

end Calculator
