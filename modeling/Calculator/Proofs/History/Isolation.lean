import Calculator.Path
import Calculator.Proofs.History.Changes

/-!
# Users of one folder

Any number of users call their histories in one folder. Whatever a user is called, the name of the
file is one name below the folder, of word characters, points and hyphens, and a call neither
changes nor reads the file of a user with another slug (`UserCall.Confined`). So the calls of the
users with one slug are answered among all other calls as they are alone (`Folder.isolated_run`):
the two folders stay alike for the file of the slug (`Folder.Alike`).

There is one exception. A folder that is missing is made by the first user who writes to it, and
from then on a name that is too long for a file is refused, also when entries are only listed
(`Folder.listing_fails_beside_others`). Before that it is looked up and nothing is found, unless it
is so long that the whole path is refused.
-/

namespace Calculator

/-! ### File names -/

/-- A character of which slugs are made: a word character, a point or a hyphen. -/
def IsSlugChar (c : Char) : Prop := Text.isWord c = true ∨ c = '.' ∨ c = '-'

/-- A character stands in a slug as it is, or as the low line. -/
lemma isSlugChar_slugChar (c : Char) : IsSlugChar (slugChar c) := by
  unfold slugChar
  split
  · assumption
  · exact Or.inl (by decide +kernel)

/-- A slug is made of slug characters, and of one at least. -/
lemma isSlugChar_of_mem_slug (user : String) :
    slug user ≠ "" ∧ ∀ c ∈ (slug user).toList, IsSlugChar c := by
  unfold slug
  split
  · have hword : "guest".toList.all Text.isWord = true := by decide +kernel
    exact ⟨by decide, fun c hc => Or.inl (List.all_eq_true.mp hword c hc)⟩
  · next hne =>
    refine ⟨fun hempty => hne (String.ofList_inj.mp hempty), fun c hc => ?_⟩
    rw [String.toList_ofList] at hc
    obtain ⟨d, -, rfl⟩ := List.mem_map.mp hc
    exact isSlugChar_slugChar d

/-- Users have the same file just when they have the same slug. -/
lemma historyFile_inj {user other : String} :
    historyFile user = historyFile other ↔ slug user = slug other := by
  unfold historyFile
  constructor
  · intro h
    have hlist := congrArg String.toList h
    rw [String.toList_append, String.toList_append] at hlist
    exact String.toList_inj.mp (List.append_cancel_right hlist)
  · intro h
    rw [h]

/-- No slash stands in the name of a user's file. -/
lemma slash_not_mem_historyFile (user : String) : '/' ∉ (historyFile user).toList := by
  rw [historyFile, String.toList_append]
  intro h
  rcases List.mem_append.mp h with hslug | hending
  · rcases (isSlugChar_of_mem_slug user).2 '/' hslug with hword | hpoint | hhyphen
    · exact absurd hword (by decide +kernel)
    · exact absurd hpoint (by decide)
    · exact absurd hhyphen (by decide)
  · exact absurd hending (by decide +kernel)

namespace Path

/-- A text without slashes is one name. -/
lemma splitNames_of_slashless {begun cs : List Char} (h : '/' ∉ cs) :
    splitNames begun cs = [begun.reverse ++ cs] := by
  induction cs generalizing begun with
  | nil => simp [splitNames]
  | cons c rest ih =>
    have hc : c ≠ '/' := fun heq => h (heq ▸ List.mem_cons_self)
    have hrest : '/' ∉ rest := fun hmem => h (List.mem_cons_of_mem c hmem)
    simp [splitNames, hc, ih hrest]

/-- A text without slashes has no root. -/
lemma rootOf_of_slashless {cs : List Char} (h : '/' ∉ cs) : rootOf cs = "" := by
  unfold rootOf
  split
  · exact absurd List.mem_cons_self h
  · exact absurd List.mem_cons_self h
  · exact absurd List.mem_cons_self h
  · rfl

/-- A name without slashes that is neither empty nor a point is the path of that name alone. -/
lemma ofText_of_slashless {name : String} (slash : '/' ∉ name.toList)
    (proper : isName name.toList = true) : ofText name = ⟨"", [name]⟩ := by
  unfold ofText
  rw [rootOf_of_slashless slash, splitNames_of_slashless slash]
  simp [proper]

/-- The name of a user's file is a path of one name. -/
lemma ofText_historyFile (user : String) :
    ofText (historyFile user) = ⟨"", [historyFile user]⟩ := by
  refine ofText_of_slashless (slash_not_mem_historyFile user) ?_
  have hlength : 1 < (historyFile user).toList.length := by
    rw [historyFile, String.toList_append, List.length_append]
    have hending : "_history.json".toList.length = 13 := by decide
    omega
  unfold isName
  rw [decide_eq_true_iff]
  constructor
  · intro hempty
    rw [hempty] at hlength
    exact absurd hlength (by decide)
  · intro hpoint
    rw [hpoint] at hlength
    exact absurd hlength (by decide)

end Path

/-! ### Calls of users -/

/-- A call that a user makes on the history. -/
structure UserCall where
  user : String
  call : HistoryCall

namespace Folder

/-- The folder after a user's call, and the answer to it. -/
def serve (folder : Folder) (request : UserCall) : Folder × HistoryAnswer :=
  let served := Store.call ⟨folder, request.user⟩ request.call
  (served.1.folder, served.2)

/-- The folder after calls of users, one after the other. -/
def afterCalls (folder : Folder) (requests : List UserCall) : Folder :=
  requests.foldl (fun folder request => (folder.serve request).1) folder

/-- Calls of users, one after the other, with the answers to them. -/
def transcript (folder : Folder) : List UserCall → List (UserCall × HistoryAnswer)
  | [] => []
  | request :: requests =>
    (request, (folder.serve request).2) :: (folder.serve request).1.transcript requests

/-- A call leaves every name but that of the user's file as it is. -/
lemma get?_serve_of_ne (folder : Folder) (request : UserCall) {name : String}
    (h : name ≠ historyFile request.user) :
    (folder.serve request).1.get? name = folder.get? name :=
  (Store.keeps_call ⟨folder, request.user⟩ request.call).nodes name h

/-- No longer names are looked up after a call than before. -/
lemma longestName_serve_le (folder : Folder) (request : UserCall) :
    (folder.serve request).1.longestName ≤ folder.longestName :=
  (Store.keeps_call ⟨folder, request.user⟩ request.call).longest

end Folder

/-! ### What a call depends on -/

namespace Store

variable {folder other : Folder} {user : String}

/-- Folders with the same node under the name of a file are loaded alike, if a name that is too
long is looked up in neither or in both of them. -/
lemma load_congr (node : folder.get? (historyFile user) = other.get? (historyFile user))
    (looked : isFileName (historyFile user) = false →
      isLookedUp ⟨folder, user⟩ = isLookedUp ⟨other, user⟩) :
    load ⟨folder, user⟩ = load ⟨other, user⟩ := by
  cases hname : isFileName (historyFile user) with
  | true =>
    rw [load_of_name ⟨folder, user⟩ hname, load_of_name ⟨other, user⟩ hname]
    simp only [file, node]
  | false =>
    simp only [load, looked hname, file, node]

/-- Folders with the same node under the name of a file are saved to alike. -/
lemma save_congr (node : folder.get? (historyFile user) = other.get? (historyFile user))
    (es : List Entry) :
    (save ⟨folder, user⟩ es).2 = (save ⟨other, user⟩ es).2 ∧
      (save ⟨folder, user⟩ es).1.folder.get? (historyFile user) =
        (save ⟨other, user⟩ es).1.folder.get? (historyFile user) := by
  cases hname : isFileName (historyFile user) with
  | false =>
    rw [@save_of_long_name ⟨folder, user⟩ es hname, @save_of_long_name ⟨other, user⟩ es hname]
    exact ⟨rfl, node⟩
  | true =>
    by_cases hplace : folder.get? (historyFile user) = some .folder
    · have hplace' : other.get? (historyFile user) = some .folder := node ▸ hplace
      rw [@save_of_folder ⟨folder, user⟩ es hname hplace,
        @save_of_folder ⟨other, user⟩ es hname hplace']
      exact ⟨rfl, node⟩
    · have hplace' : other.get? (historyFile user) ≠ some .folder := node ▸ hplace
      rw [@save_eq ⟨folder, user⟩ es hname hplace, @save_eq ⟨other, user⟩ es hname hplace']
      exact ⟨rfl, (Folder.get?_put_self folder _ _).trans (Folder.get?_put_self other _ _).symm⟩

/-- Folders with the same node under the name of a file answer a call alike, and have the same node
there again. -/
lemma call_congr (node : folder.get? (historyFile user) = other.get? (historyFile user))
    (looked : isFileName (historyFile user) = false →
      isLookedUp ⟨folder, user⟩ = isLookedUp ⟨other, user⟩)
    (request : HistoryCall) :
    (call ⟨folder, user⟩ request).2 = (call ⟨other, user⟩ request).2 ∧
      (call ⟨folder, user⟩ request).1.folder.get? (historyFile user) =
        (call ⟨other, user⟩ request).1.folder.get? (historyFile user) := by
  have hload := load_congr node looked
  cases request with
  | record now equation result category =>
    simp only [call, record, append, hload]
    cases load ⟨other, user⟩ with
    | error failure => exact ⟨rfl, node⟩
    | ok kept =>
      have hsave := save_congr node (kept ++ [.ofTexts equation result category now.recorded])
      simp only
      generalize save ⟨folder, user⟩ _ = saved, save ⟨other, user⟩ _ = saved' at hsave ⊢
      obtain ⟨next, answer⟩ := saved
      obtain ⟨next', answer'⟩ := saved'
      obtain ⟨rfl, hnode⟩ := hsave
      cases answer with
      | error failure => exact ⟨rfl, hnode⟩
      | ok done => exact ⟨rfl, hnode⟩
  | clear =>
    have hsave := save_congr node []
    simp only [call, clear]
    generalize save ⟨folder, user⟩ _ = saved, save ⟨other, user⟩ _ = saved' at hsave ⊢
    obtain ⟨next, answer⟩ := saved
    obtain ⟨next', answer'⟩ := saved'
    obtain ⟨rfl, hnode⟩ := hsave
    cases answer with
    | error failure => exact ⟨rfl, hnode⟩
    | ok done => exact ⟨rfl, hnode⟩
  | entries =>
    simp only [call, entries, hload]
    exact ⟨trivial, node⟩
  | search term category =>
    simp only [call, search, entries, hload]
    exact ⟨trivial, node⟩

/-- A call under a name that is too long leaves every node as it is. A call that writes is refused,
and one that reads lists nothing or is refused. -/
lemma call_of_long_name (hname : isFileName (historyFile user) = false) (request : HistoryCall) :
    (∀ name, (call ⟨folder, user⟩ request).1.folder.get? name = folder.get? name) ∧
      ((call ⟨folder, user⟩ request).2 = .failed .nameTooLong ∨
        request.isWrite = false ∧ (call ⟨folder, user⟩ request).2 = .listed []) := by
  have hsave : ∀ es, save ⟨folder, user⟩ es = (⟨folder.make, user⟩, .error .nameTooLong) :=
    fun es => @save_of_long_name ⟨folder, user⟩ es hname
  have hload : load ⟨folder, user⟩ = .ok [] ∨ load ⟨folder, user⟩ = .error .nameTooLong :=
    (@load_cases_of_long_name ⟨folder, user⟩ hname).imp And.right And.right
  cases request with
  | record now equation result category =>
    obtain ⟨next, hmade, hrecord⟩ :=
      @record_of_long_name ⟨folder, user⟩ hname now equation result category
    simp only [call, hrecord]
    refine ⟨fun _ => ?_, Or.inl trivial⟩
    rcases hmade with rfl | rfl <;> rfl
  | clear =>
    simp only [call, clear, hsave]
    exact ⟨fun _ => rfl, Or.inl trivial⟩
  | entries =>
    rcases hload with hload | hload
    · simp only [call, entries, hload]
      exact ⟨fun _ => trivial, Or.inr ⟨rfl, rfl⟩⟩
    · simp only [call, entries, hload]
      exact ⟨fun _ => trivial, Or.inl rfl⟩
  | search term category =>
    rcases hload with hload | hload
    · simp only [call, search, entries, hload]
      exact ⟨fun _ => trivial, Or.inr ⟨rfl, rfl⟩⟩
    · simp only [call, search, entries, hload]
      exact ⟨fun _ => trivial, Or.inl rfl⟩

end Store

/-! ### Confinement -/

/-- A call reaches one file only, a direct child of the folder: the name of the file is a slug of
slug characters with the ending of histories, which is a path of one name; no other node is changed;
and two folders with the same node there, in which names of the same lengths are looked up, answer
alike and have the same node there again. -/
structure UserCall.Confined (request : UserCall) : Prop where
  chars : slug request.user ≠ "" ∧ ∀ c ∈ (slug request.user).toList, IsSlugChar c
  name : historyFile request.user = slug request.user ++ "_history.json"
  child : Path.ofText (historyFile request.user) = ⟨"", [historyFile request.user]⟩
  changes : ∀ (folder : Folder) (user : String), slug user ≠ slug request.user →
    (folder.serve request).1.get? (historyFile user) = folder.get? (historyFile user)
  reads : ∀ folder other : Folder,
    folder.get? (historyFile request.user) = other.get? (historyFile request.user) →
    folder.longestName = other.longestName →
    (folder.serve request).2 = (other.serve request).2 ∧
      (folder.serve request).1.get? (historyFile request.user) =
        (other.serve request).1.get? (historyFile request.user)

/-- Every call is confined. -/
theorem UserCall.confined (request : UserCall) : request.Confined where
  chars := isSlugChar_of_mem_slug request.user
  name := rfl
  child := Path.ofText_historyFile request.user
  changes folder _ hslug :=
    folder.get?_serve_of_ne request fun hfile => hslug (historyFile_inj.mp hfile)
  reads _ _ node longest :=
    have hlooked := congrArg (fun n => decide (Store.nameLength (historyFile request.user) ≤ n))
      longest
    Store.call_congr node (fun _ => hlooked) request.call

/-! ### Runs -/

/-- Whether a call is made by a user with the slug of another. -/
def UserCall.isOf (user : String) (request : UserCall) : Bool := slug request.user = slug user

/-- A call of a user with the slug has the file of the slug. -/
lemma UserCall.historyFile_of_isOf {user : String} {request : UserCall}
    (h : request.isOf user = true) : historyFile request.user = historyFile user :=
  historyFile_inj.mpr (of_decide_eq_true h)

/-- A call of a user with another slug has another file. -/
lemma UserCall.historyFile_of_not_isOf {user : String} {request : UserCall}
    (h : request.isOf user = false) : historyFile user ≠ historyFile request.user :=
  fun hfile => of_decide_eq_false h (historyFile_inj.mp hfile).symm

namespace Folder

/-- Two folders that calls on a file do not tell apart: the same node stands under its name, and if
the name is too long, it is looked up in neither. -/
structure Alike (file : String) (folder other : Folder) : Prop where
  node : folder.get? file = other.get? file
  refused : Store.isFileName file = false →
    folder.longestName < Store.nameLength file ∧ other.longestName < Store.nameLength file

variable {folder other : Folder} {user : String}

/-- Folders that are alike for a file answer a call on it alike, and stay alike. -/
lemma Alike.serve (h : Alike (historyFile user) folder other) {request : UserCall}
    (own : request.isOf user = true) :
    (folder.serve request).2 = (other.serve request).2 ∧
      Alike (historyFile user) (folder.serve request).1 (other.serve request).1 := by
  rw [← request.historyFile_of_isOf own] at h ⊢
  have hlooked : Store.isFileName (historyFile request.user) = false →
      Store.isLookedUp ⟨folder, request.user⟩ = Store.isLookedUp ⟨other, request.user⟩ := by
    intro hname
    obtain ⟨hfolder, hother⟩ := h.refused hname
    have hnot : Store.isLookedUp ⟨folder, request.user⟩ = false :=
      decide_eq_false (Nat.not_le.mpr hfolder)
    exact hnot.trans (decide_eq_false (Nat.not_le.mpr hother)).symm
  obtain ⟨hanswer, hnode⟩ := Store.call_congr h.node hlooked request.call
  refine ⟨hanswer, hnode, fun hname => ?_⟩
  obtain ⟨hfolder, hother⟩ := h.refused hname
  exact ⟨Nat.lt_of_le_of_lt (folder.longestName_serve_le request) hfolder,
    Nat.lt_of_le_of_lt (other.longestName_serve_le request) hother⟩

/-- Folders that are alike for a file stay alike when one of them serves a call on another file. -/
lemma Alike.serve_other (h : Alike (historyFile user) folder other) {request : UserCall}
    (foreign : request.isOf user = false) :
    Alike (historyFile user) (folder.serve request).1 other := by
  refine ⟨?_, fun hname => ?_⟩
  · rw [folder.get?_serve_of_ne request (request.historyFile_of_not_isOf foreign)]
    exact h.node
  · obtain ⟨hfolder, hother⟩ := h.refused hname
    exact ⟨Nat.lt_of_le_of_lt (folder.longestName_serve_le request) hfolder, hother⟩

/-- Of two folders that are alike for a file, one serves all calls as the other one serves those on
the file alone. -/
lemma Alike.transcript (h : Alike (historyFile user) folder other) (requests : List UserCall) :
    (folder.transcript requests).filter (·.1.isOf user) =
        other.transcript (requests.filter (·.isOf user)) ∧
      Alike (historyFile user) (folder.afterCalls requests)
        (other.afterCalls (requests.filter (·.isOf user))) := by
  induction requests generalizing folder other with
  | nil => exact ⟨rfl, h⟩
  | cons request requests ih =>
    cases hof : request.isOf user with
    | true =>
      obtain ⟨hanswer, hnext⟩ := h.serve hof
      obtain ⟨htranscript, hafter⟩ := ih hnext
      rw [List.filter_cons_of_pos hof]
      refine ⟨?_, hafter⟩
      simp only [Folder.transcript]
      rw [List.filter_cons_of_pos (by exact hof), htranscript, hanswer]
    | false =>
      obtain ⟨htranscript, hafter⟩ := ih (h.serve_other hof)
      rw [List.filter_cons_of_neg (by simp [hof])]
      refine ⟨?_, hafter⟩
      simp only [Folder.transcript]
      rw [List.filter_cons_of_neg (by simp [hof]), htranscript]

/-- What stands under a name that is too long stays there whatever is called. -/
lemma get?_afterCalls_of_long_name (hname : Store.isFileName (historyFile user) = false)
    (folder : Folder) (requests : List UserCall) :
    (folder.afterCalls requests).get? (historyFile user) = folder.get? (historyFile user) := by
  induction requests generalizing folder with
  | nil => rfl
  | cons request requests ih =>
    refine (ih (folder.serve request).1).trans ?_
    cases hof : request.isOf user with
    | true =>
      have hlong : Store.isFileName (historyFile request.user) = false := by
        rw [request.historyFile_of_isOf hof, hname]
      exact (Store.call_of_long_name hlong request.call).1 (historyFile user)
    | false => exact folder.get?_serve_of_ne request (request.historyFile_of_not_isOf hof)

/-- Calls under a name that is too long are refused, or they list nothing. -/
lemma answers_of_long_name (hname : Store.isFileName (historyFile user) = false) (folder : Folder)
    (requests : List UserCall) :
    ∀ served ∈ folder.transcript requests, served.1.isOf user = true →
      served.2 = .failed .nameTooLong ∨
        served.1.call.isWrite = false ∧ served.2 = .listed [] := by
  induction requests generalizing folder with
  | nil => exact fun served hserved => absurd hserved List.not_mem_nil
  | cons request requests ih =>
    intro served hmem hof
    rcases List.mem_cons.mp hmem with rfl | hrest
    · have hlong : Store.isFileName (historyFile request.user) = false := by
        rw [request.historyFile_of_isOf hof, hname]
      exact (Store.call_of_long_name hlong request.call).2
    · exact ih (folder.serve request).1 served hrest hof

/-- Every call reaches the one file of its user alone. The calls of the users with one slug are
answered among the calls of any other users as they are alone, and leave the same node under the
name of the file, unless the folder is missing at first and the name is too long for a file but not
to be looked up. Under a name that is too long nothing is written, and nothing is ever listed. -/
theorem isolated_run (folder : Folder) (user : String) (requests : List UserCall) :
    (∀ request : UserCall, request.Confined) ∧
    (folder.longestName < Store.nameLength (historyFile user) ∨
        Store.isFileName (historyFile user) = true →
      (folder.transcript requests).filter (·.1.isOf user) =
        folder.transcript (requests.filter (·.isOf user))) ∧
    (folder.afterCalls requests).get? (historyFile user) =
      (folder.afterCalls (requests.filter (·.isOf user))).get? (historyFile user) ∧
    (Store.isFileName (historyFile user) = false →
      (folder.afterCalls requests).get? (historyFile user) = folder.get? (historyFile user) ∧
      ∀ served ∈ folder.transcript requests, served.1.isOf user = true →
        served.2 = .failed .nameTooLong ∨
          served.1.call.isWrite = false ∧ served.2 = .listed []) := by
  have halike : folder.longestName < Store.nameLength (historyFile user) ∨
        Store.isFileName (historyFile user) = true →
      Alike (historyFile user) folder folder := by
    intro hfolder
    refine ⟨rfl, fun hname => ?_⟩
    have hrefused := hfolder.resolve_right (by simp [hname])
    exact ⟨hrefused, hrefused⟩
  refine ⟨UserCall.confined, fun hfolder => ((halike hfolder).transcript requests).1, ?_,
    fun hname => ⟨get?_afterCalls_of_long_name hname folder requests,
      answers_of_long_name hname folder requests⟩⟩
  cases hname : Store.isFileName (historyFile user) with
  | true => exact ((halike (Or.inr hname)).transcript requests).2.node
  | false =>
    rw [get?_afterCalls_of_long_name hname, get?_afterCalls_of_long_name hname]

/-- In a folder that another user has made, a user whose name is too long fails to list what is
listed in a missing folder where the name is looked up: nothing. -/
lemma transcript_ne_of_long_name {spare : Nat} (long : Store.isFileName (historyFile user) = false)
    (looked : Store.isLookedUp ⟨.missing spare, user⟩ = true) {maker : String}
    (short : Store.isFileName (historyFile maker) = true) :
    ((missing spare).transcript [⟨maker, .clear⟩, ⟨user, .entries⟩]).filter (·.1.isOf user) ≠
      (missing spare).transcript
        ([⟨maker, .clear⟩, ⟨user, .entries⟩].filter (·.isOf user)) := by
  have hforeign : UserCall.isOf user ⟨maker, .clear⟩ = false := by
    refine decide_eq_false fun hslug => ?_
    have hfile : historyFile maker = historyFile user := historyFile_inj.mpr hslug
    rw [hfile, long] at short
    cases short
  have hown : UserCall.isOf user ⟨user, .entries⟩ = true := decide_eq_true rfl
  obtain ⟨nodes, hmade⟩ : ∃ nodes, ((missing spare).serve ⟨maker, .clear⟩).1 = made nodes := by
    have hsave := @Store.save_eq ⟨missing spare, maker⟩ [] short (by simp)
    refine ⟨insert (historyFile maker) (.file (Store.bytesOfEntries [])) [], ?_⟩
    simp only [serve, Store.call_clear, hsave]
    rfl
  have hbeside : ((made nodes).serve ⟨user, .entries⟩).2 = .failed .nameTooLong := by
    simp only [serve, Store.call, Store.entries, Store.load_of_long_name nodes long]
    rfl
  have halone : ((missing spare).serve ⟨user, .entries⟩).2 = .listed [] := by
    simp only [serve, Store.call, Store.entries, Store.load_missing looked]
    rfl
  simp [transcript, hmade, hforeign, hown, hbeside, halone]

/-- Three hundred letters are a name that is too long: a user of that name lists nothing in a
missing folder, but fails to do so as soon as another user has cleared a history in it. -/
theorem listing_fails_beside_others :
    ((missing Store.sampleSpare).transcript [⟨"tester", .clear⟩, ⟨Store.longUser, .entries⟩]).filter
        (·.1.isOf Store.longUser) ≠
      (missing Store.sampleSpare).transcript
        ([⟨"tester", .clear⟩, ⟨Store.longUser, .entries⟩].filter (·.isOf Store.longUser)) :=
  transcript_ne_of_long_name Store.isFileName_longUser Store.isLookedUp_longUser (by decide +kernel)

end Folder

end Calculator
