import Mathlib.Data.List.Forall2
import Calculator.Proofs.History.Storage

/-!
# Runs of calls on a history

A user's history is used by recording calculations, clearing, listing and searching. `Store.run`
makes such calls one after the other, and `HistoryCall.onList` says what they do to a list of
entries that is kept in memory.

On a folder that is missing at first, a store answers every call as the list does, as long as the
name of its file is not too long, and it lists what `recorded` keeps of its answers: the entries
that were recorded since it was last cleared. A name that is too long is refused by every call
that writes. The invariant of a run is `Store.Holds`.
-/

namespace Calculator

/-! ### Calls and answers -/

/-- A call on the history of a user. -/
inductive HistoryCall where
  /-- Records a calculation at a moment of the clock. -/
  | record (now : Moment) (equation result category : String)
  | clear
  | entries
  | search (term : String) (category : Option String)

/-- The answer to a call. -/
inductive HistoryAnswer where
  | recorded (entry : Entry)
  | cleared
  | listed (entries : List Entry)
  | failed (failure : StoreFailure)
deriving DecidableEq

namespace HistoryCall

/-- Whether a call changes the history. -/
def isWrite : HistoryCall → Bool
  | .record .. | .clear => true
  | .entries | .search .. => false

/-- What a call does to a list of entries, the oldest first, and the answer. -/
def onList (kept : List Entry) : HistoryCall → List Entry × HistoryAnswer
  | .record now equation result category =>
    let entry : Entry := .ofTexts equation result category now.recorded
    (kept ++ [entry], .recorded entry)
  | .clear => ([], .cleared)
  | .entries => (kept, .listed kept.reverse)
  | .search term category =>
    (kept, .listed (kept.reverse.filter fun e => e.isMatch term && e.isOf category))

/-- The answers to calls on a list of entries. -/
def answersOnList (kept : List Entry) : List HistoryCall → List HistoryAnswer
  | [] => []
  | call :: calls => (call.onList kept).2 :: answersOnList (call.onList kept).1 calls

end HistoryCall

namespace HistoryAnswer

/-- The answer of a reading call. -/
def ofListing : Except StoreFailure (List Entry) → HistoryAnswer
  | .ok entries => .listed entries
  | .error failure => .failed failure

/-- What is kept of the entries recorded so far after a further answer. -/
def keep (kept : List Entry) : HistoryAnswer → List Entry
  | .recorded entry => kept ++ [entry]
  | .cleared => []
  | .listed _ | .failed _ => kept

end HistoryAnswer

/-- The entries that were recorded since the last clearing, the oldest first. -/
def recorded (answers : List HistoryAnswer) : List Entry := answers.foldl HistoryAnswer.keep []

namespace Store

/-- A call on a store. -/
def call (store : Store) : HistoryCall → Store × HistoryAnswer
  | .record now equation result category =>
    match store.record now equation result category with
    | (next, .ok entry) => (next, .recorded entry)
    | (next, .error failure) => (next, .failed failure)
  | .clear =>
    match store.clear with
    | (next, .ok ()) => (next, .cleared)
    | (next, .error failure) => (next, .failed failure)
  | .entries => (store, .ofListing store.entries)
  | .search term category => (store, .ofListing (store.search term category))

/-- Calls on a store, one after the other. -/
def run (store : Store) : List HistoryCall → Store × List HistoryAnswer
  | [] => (store, [])
  | call :: calls =>
    let next := store.call call
    let last := next.1.run calls
    (last.1, next.2 :: last.2)

/-! ### Stores of a short name -/

/-- A store that holds entries, and to which more can be saved. -/
structure Holds (store : Store) (kept : List Entry) : Prop where
  name : isFileName store.file = true
  place : store.folder.get? store.file ≠ some .folder
  load : store.load = .ok kept

/-- A missing folder holds nothing. -/
lemma holds_missing {user : String} (spare : Nat) (h : isFileName (historyFile user) = true) :
    Holds ⟨.missing spare, user⟩ [] :=
  ⟨h, by simp, load_of_name _ h⟩

/-- What is saved is held. -/
lemma Holds.save {store : Store} {kept : List Entry} (h : store.Holds kept) (es : List Entry) :
    ∃ next, store.save es = (next, .ok ()) ∧ next.Holds es := by
  have hload := load_save es h.name h.place
  rw [save_eq es h.name h.place] at hload ⊢
  refine ⟨_, rfl, h.name, ?_, hload⟩
  have hfile := Folder.get?_put_self store.folder store.file (.file (bytesOfEntries es))
  intro hfolder
  have heq : some (Node.file (bytesOfEntries es)) = some .folder := hfile.symm.trans hfolder
  cases heq

/-- A store that holds entries answers a call as the list of them does. -/
lemma Holds.call {store : Store} {kept : List Entry} (h : store.Holds kept) (call : HistoryCall) :
    (store.call call).1.Holds (call.onList kept).1 ∧
      (store.call call).2 = (call.onList kept).2 := by
  have hentries : store.entries = .ok kept.reverse := by simp only [entries, h.load]
  cases call with
  | record now equation result category =>
    obtain ⟨next, hsave, hnext⟩ :=
      h.save (kept ++ [.ofTexts equation result category now.recorded])
    simp only [Store.call, record, append, h.load, hsave]
    exact ⟨hnext, rfl⟩
  | clear =>
    obtain ⟨next, hsave, hnext⟩ := h.save []
    simp only [Store.call, clear, hsave]
    exact ⟨hnext, rfl⟩
  | entries =>
    simp only [Store.call, hentries]
    exact ⟨h, rfl⟩
  | search term category =>
    simp only [Store.call, search, hentries]
    exact ⟨h, rfl⟩

/-- What a list keeps is what is kept of its answers. -/
lemma keep_onList (kept : List Entry) (call : HistoryCall) :
    (call.onList kept).2.keep kept = (call.onList kept).1 := by
  cases call <;> rfl

/-- A store that holds entries answers calls as the list of them does, and holds what is kept of the
answers. -/
lemma Holds.run {store : Store} {kept : List Entry} (h : store.Holds kept)
    (calls : List HistoryCall) :
    (store.run calls).2 = HistoryCall.answersOnList kept calls ∧
      (store.run calls).1.Holds ((store.run calls).2.foldl HistoryAnswer.keep kept) := by
  induction calls generalizing store kept with
  | nil => exact ⟨rfl, h⟩
  | cons call calls ih =>
    obtain ⟨hnext, hanswer⟩ := h.call call
    obtain ⟨hanswers, hlast⟩ := ih hnext
    refine ⟨?_, ?_⟩
    · simp only [Store.run, HistoryCall.answersOnList, hanswer, hanswers]
    · simp only [Store.run, List.foldl_cons, hanswer, keep_onList]
      exact hlast

/-! ### Stores of a long name -/

/-- A store whose name is too long, in a folder where nothing stands. -/
structure Refuses (store : Store) : Prop where
  name : isFileName store.file = false
  nodes : store.folder.nodes = []

/-- A missing folder refuses a name that is too long. -/
lemma refuses_missing {user : String} (spare : Nat) (h : isFileName (historyFile user) = false) :
    Refuses ⟨.missing spare, user⟩ :=
  ⟨h, rfl⟩

/-- Nothing is saved under a name that is too long. -/
lemma Refuses.save {store : Store} (h : store.Refuses) (es : List Entry) :
    ∃ next, store.save es = (next, .error .nameTooLong) ∧ next.Refuses :=
  ⟨_, save_of_long_name es h.name, h.name, h.nodes⟩

/-- Nothing is appended under a name that is too long. -/
lemma Refuses.append {store : Store} (h : store.Refuses) (entry : Entry) :
    ∃ next, store.append entry = (next, .error .nameTooLong) ∧ next.Refuses := by
  unfold Store.append
  rcases load_cases_of_long_name h.name with ⟨-, hload⟩ | ⟨-, hload⟩
  · rw [hload]
    exact h.save _
  · rw [hload]
    exact ⟨_, rfl, h⟩

/-- A name that is too long is refused by every call that writes. -/
lemma Refuses.call {store : Store} (h : store.Refuses) (call : HistoryCall) :
    (store.call call).1.Refuses ∧
      (call.isWrite = true → (store.call call).2 = .failed .nameTooLong) := by
  cases call with
  | record now equation result category =>
    obtain ⟨next, happend, hnext⟩ :=
      h.append (.ofTexts equation result category now.recorded)
    simp only [Store.call, record, happend]
    exact ⟨hnext, fun _ => trivial⟩
  | clear =>
    obtain ⟨next, hsave, hnext⟩ := h.save []
    simp only [Store.call, clear, hsave]
    exact ⟨hnext, fun _ => trivial⟩
  | entries => exact ⟨h, fun hwrite => by cases hwrite⟩
  | search term category => exact ⟨h, fun hwrite => by cases hwrite⟩

/-- A name that is too long is refused all along. -/
lemma Refuses.run {store : Store} (h : store.Refuses) (calls : List HistoryCall) :
    (store.run calls).1.Refuses ∧
      List.Forall₂ (fun call answer => call.isWrite = true → answer = .failed .nameTooLong) calls
        (store.run calls).2 := by
  induction calls generalizing store with
  | nil => exact ⟨h, .nil⟩
  | cons call calls ih =>
    obtain ⟨hnext, hanswer⟩ := h.call call
    obtain ⟨hlast, hanswers⟩ := ih hnext
    exact ⟨hlast, .cons hanswer hanswers⟩

/-! ### Runs on a missing folder -/

/-- From a missing folder on, a store answers every call as a list kept in memory does, and lists
the entries recorded since the last clearing, the newest first. If the name of its file is too
long, every call that writes is refused instead, and no file is made. -/
theorem entries_after_run (spare : Nat) (user : String) (calls : List HistoryCall) :
    if isFileName (historyFile user) then
      (run ⟨.missing spare, user⟩ calls).2 = HistoryCall.answersOnList [] calls ∧
        (run ⟨.missing spare, user⟩ calls).1.entries =
          .ok (recorded (run ⟨.missing spare, user⟩ calls).2).reverse
    else
      List.Forall₂ (fun call answer => call.isWrite = true → answer = .failed .nameTooLong) calls
          (run ⟨.missing spare, user⟩ calls).2 ∧
        (run ⟨.missing spare, user⟩ calls).1.folder.files = [] := by
  cases hname : isFileName (historyFile user) with
  | true =>
    obtain ⟨hanswers, hholds⟩ := (holds_missing spare hname).run calls
    rw [if_pos rfl]
    refine ⟨hanswers, ?_⟩
    simp only [entries, hholds.load, recorded]
  | false =>
    obtain ⟨hrefuses, hanswers⟩ := (refuses_missing spare hname).run calls
    rw [if_neg Bool.false_ne_true]
    refine ⟨hanswers, ?_⟩
    simp only [Folder.files, hrefuses.nodes, List.filterMap_nil]

/-- A calculation is refused under a name that is too long, and listing the entries fails
afterwards. -/
lemma run_of_long_name {user : String} (hname : isFileName (historyFile user) = false)
    (spare : Nat) (now : Moment) (equation result category : String) :
    (run ⟨.missing spare, user⟩ [.record now equation result category]).2 = [.failed .nameTooLong] ∧
      (run ⟨.missing spare, user⟩ [.record now equation result category]).1.entries =
        .error .nameTooLong := by
  have hsave : ∀ es, save ⟨.missing spare, user⟩ es = (⟨.made [], user⟩, .error .nameTooLong) :=
    fun es => save_of_long_name es hname
  rcases @load_cases_of_long_name ⟨.missing spare, user⟩ hname with
    ⟨-, hload⟩ | ⟨-, hload⟩
  · simp only [run, call, record, append, hload, hsave]
    refine ⟨trivial, ?_⟩
    simp only [entries, load_of_long_name [] hname]
  · simp only [run, call, record, append, hload]
    refine ⟨trivial, ?_⟩
    simp only [entries, hload]

/-- A user name that is too long for the name of a file. -/
def longUser : String := .ofList (List.replicate 300 'a')

/-- Nothing of it is a blank at an end. -/
lemma length_strip_longUser : (Text.strip longUser.toList).length = 300 := by
  have hlist : longUser.toList = List.replicate 300 'a' := String.toList_ofList
  rw [hlist]
  decide +kernel

/-- The name of the file is too long. -/
lemma isFileName_longUser : isFileName (historyFile longUser) = false := by
  apply not_isFileName_of_long_user
  rw [length_strip_longUser]
  decide

/-- What a short path of a missing folder leaves beyond the longest file name. -/
def sampleSpare : Nat := 3800

/-- The name of the file is looked up all the same. -/
lemma isLookedUp_longUser : isLookedUp ⟨.missing sampleSpare, longUser⟩ = true := by
  apply isLookedUp_missing
  rw [length_strip_longUser]
  decide

/-- The second of January 2026, four minutes past three. -/
def sampleMoment : Moment where
  date := ⟨2026, 1, 2, by decide, by decide, by decide⟩
  hour := 3
  minute := 4
  second := 5
  microsecond := 0
  offset := some 0
  hour_lt := by decide
  minute_lt := by decide
  second_lt := by decide
  microsecond_lt := by decide
  offset_lt := by
    rintro t ⟨⟩
    decide

/-- For a user name that is too long, a calculation is refused and nothing is kept of the answer,
but the entries are not listed either. -/
theorem entries_fail_for_long_user :
    (run ⟨.missing sampleSpare, longUser⟩ [.record sampleMoment "1+1" "2" "standard"]).2 =
        [.failed .nameTooLong] ∧
      (run ⟨.missing sampleSpare, longUser⟩ [.record sampleMoment "1+1" "2" "standard"]).1.entries ≠
        .ok (recorded
          (run ⟨.missing sampleSpare, longUser⟩
            [.record sampleMoment "1+1" "2" "standard"]).2).reverse := by
  obtain ⟨hanswer, hentries⟩ :=
    run_of_long_name isFileName_longUser sampleSpare sampleMoment "1+1" "2" "standard"
  refine ⟨hanswer, ?_⟩
  rw [hentries]
  intro h
  cases h

end Store

end Calculator
