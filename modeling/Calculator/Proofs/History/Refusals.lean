import Calculator.Proofs.History.Changes

/-!
# Stores that refuse

A store refuses a calculation when its file is not read, when a folder stands in the place of the
file, or when the name of the file is too long. Then no file has changed (`Store.Refused.get?`): the
store is as it was, or the folder has been made that was missing.
-/

namespace Calculator

/-- A folder in which something stands is there already. -/
lemma Folder.make_of_get? {folder : Folder} {name : String} {node : Node}
    (h : folder.get? name = some node) : folder.make = folder := by
  cases folder with
  | missing spare => cases h
  | made nodes => rfl

namespace Store

/-- A store after a calculation was refused: nothing has changed, or the name of the file is too
long and the folder has been made. -/
def Refused (store next : Store) : Prop :=
  next = store ∨
    isFileName store.file = false ∧ next = { store with folder := store.folder.make }

/-- Saving changes nothing where it is refused, unless the name is too long. -/
lemma refused_save {store next : Store} {es : List Entry} {failure : StoreFailure}
    (h : store.save es = (next, .error failure)) : store.Refused next := by
  cases hname : isFileName store.file with
  | false =>
    rw [save_of_long_name es hname] at h
    exact Or.inr ⟨hname, (Prod.mk.inj h).1.symm⟩
  | true =>
    by_cases hplace : store.folder.get? store.file = some .folder
    · rw [save_of_folder es hname hplace, Folder.make_of_get? hplace] at h
      exact Or.inl (Prod.mk.inj h).1.symm
    · rw [save_eq es hname hplace] at h
      cases (Prod.mk.inj h).2

/-- Recording changes nothing where it is refused, unless the name is too long. -/
lemma refused_record {store next : Store} {now : Moment} {equation result category : String}
    {failure : StoreFailure}
    (h : store.record now equation result category = (next, .error failure)) :
    store.Refused next := by
  simp only [record, append] at h
  cases hload : store.load with
  | error reason =>
    simp only [hload] at h
    exact Or.inl (Prod.mk.inj h).1.symm
  | ok kept =>
    simp only [hload] at h
    rcases hsave : store.save (kept ++ [.ofTexts equation result category now.recorded]) with
      ⟨last, reason | ⟨⟩⟩
    · simp only [hsave] at h
      obtain ⟨rfl, -⟩ := Prod.mk.inj h
      exact refused_save hsave
    · simp only [hsave] at h
      cases (Prod.mk.inj h).2

/-- A calculation is refused where a folder stands in the place of the file. -/
lemma record_of_folder {store : Store} (hname : isFileName store.file = true)
    (hplace : store.folder.get? store.file = some .folder) (now : Moment)
    (equation result category : String) :
    store.record now equation result category = (store, .error .folderInPlace) := by
  have hload : store.load = .ok [] := by
    rw [store.load_of_name hname, hplace]
  simp only [record, append, hload, save_of_folder _ hname hplace, Folder.make_of_get? hplace]

/-- In a missing folder where the name is looked up, a calculation is refused under a name that is
too long, and the folder is made. -/
lemma record_missing_of_long_name {user : String} {spare : Nat}
    (hname : isFileName (historyFile user) = false)
    (looked : isLookedUp ⟨.missing spare, user⟩ = true) (now : Moment)
    (equation result category : String) :
    record ⟨.missing spare, user⟩ now equation result category =
      (⟨.made [], user⟩, .error .nameTooLong) := by
  have hsave : ∀ es, save ⟨.missing spare, user⟩ es = (⟨.made [], user⟩, .error .nameTooLong) :=
    fun es => save_of_long_name es hname
  simp only [record, append, load_missing looked, hsave]

/-- Every file is as it was. -/
lemma Refused.get? {store next : Store} (h : store.Refused next) (name : String) :
    next.folder.get? name = store.folder.get? name := by
  rcases h with rfl | ⟨-, rfl⟩
  · rfl
  · exact Folder.get?_make store.folder name

end Store

end Calculator
