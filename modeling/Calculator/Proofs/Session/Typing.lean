import Calculator.Proofs.Session.Refusals
import Mathlib.Data.List.Induction

/-!
# Typing in pieces

Texts that are typed one after the other leave the session as their concatenation does, but for the
display (`Session.pressAll_agrees`). The display takes a text in place of a lone zero, which the
equation keeps, so zeros are missing on it at most: while an equation is typed, the equation is the
display behind zeros (`Session.trails_run`).

One call breaks this. An equation that is submitted keeps standing when the history refuses it, and
its value is shown in its place (`Session.value_beside_equation`). What is typed then follows the
equation as well as the value (`Session.Overtypes`).
-/

namespace Calculator

namespace Session

/-! ### Pieces of a text -/

/-- Two sessions that differ at most in what their displays show. -/
structure Agrees (s s' : Session) : Prop where
  equation : s.equation = s'.equation
  preview : s.preview = s'.preview
  isNew : s.isNew = s'.isNew
  memory : s.memory = s'.memory
  history : s.history = s'.history

/-- A session agrees with itself. -/
lemma Agrees.refl (s : Session) : s.Agrees s := ⟨rfl, rfl, rfl, rfl, rfl⟩

/-- What agrees with a session that agrees with another one agrees with it. -/
lemma Agrees.trans {s s' s'' : Session} (h : s.Agrees s') (h' : s'.Agrees s'') : s.Agrees s'' where
  equation := h.equation.trans h'.equation
  preview := h.preview.trans h'.preview
  isNew := h.isNew.trans h'.isNew
  memory := h.memory.trans h'.memory
  history := h.history.trans h'.history

/-- The session after texts that are typed one after the other. -/
def pressAll (s : Session) (texts : List String) : Session := texts.foldl press s

/-- A text that is typed in two pieces is typed at once. -/
lemma press_press_agrees (s : Session) (text text' : String) :
    ((s.press text).press text').Agrees (s.press (text ++ text')) := by
  cases hnew : s.isNew with
  | true =>
    simp only [press, hnew, if_true, withPreview, Bool.false_eq_true, if_false]
    exact ⟨rfl, rfl, rfl, rfl, rfl⟩
  | false =>
    simp only [press, hnew, withPreview, Bool.false_eq_true, if_false, String.append_assoc]
    exact ⟨rfl, rfl, rfl, rfl, rfl⟩

/-- A text that is typed in pieces is typed at once. -/
theorem pressAll_agrees (s : Session) (text : String) (texts : List String) :
    (s.pressAll (text :: texts)).Agrees (s.press (String.join (text :: texts))) := by
  -- By induction on the pieces: the first one and all the others are two pieces.
  induction texts generalizing s text with
  | nil =>
    have hjoin : String.join [text] = text := by simp [String.join]
    rw [hjoin]
    exact .refl _
  | cons text' texts ih =>
    have hjoin : String.join (text :: text' :: texts) =
        text ++ String.join (text' :: texts) := String.join_cons
    rw [hjoin]
    exact (ih (s.press text) text').trans (s.press_press_agrees text _)

/-! ### Zeros that are not shown -/

/-- A number of zeros. -/
def zeros (n : Nat) : String := .ofList (List.replicate n '0')

/-- A zero behind zeros is one zero more. -/
lemma zeros_append_zero (n : Nat) : zeros n ++ "0" = zeros (n + 1) := by
  rw [zeros, zeros, List.replicate_succ', String.ofList_append]

/-- A text that is shown but for zeros in front is so when something is typed behind it. -/
lemma exists_zeros_typed {whole display : String} {n : Nat} (h : whole = zeros n ++ display)
    (text : String) :
    ∃ m, whole ++ text = zeros m ++ if display = "0" then text else display ++ text := by
  by_cases hzero : display = "0"
  · rw [if_pos hzero, h, hzero, zeros_append_zero]
    exact ⟨n + 1, rfl⟩
  · rw [if_neg hzero, h, String.append_assoc]
    exact ⟨n, rfl⟩

/-- The equation is what the display shows, but for zeros in front. -/
def Trails (s : Session) : Prop := ∃ n, s.equation = zeros n ++ s.display

/-- The equation begins with one whose value was shown in its place, and what has been typed since
then stands behind both; of the value and what is typed, zeros in front may not be shown. -/
def Overtypes (s : Session) (submitted : String) : Prop :=
  ∃ x typed n, evaluate submitted = .ok x ∧ s.equation = submitted ++ typed ∧
    x.display ++ typed = zeros n ++ s.display

/-- The history refuses the value of the equation that is submitted. -/
def RefusesSubmit (s : Session) (call : Call) : Prop :=
  call.operation = .submit ∧ ∃ failure, s.answer call = .error (.store failure)

/-- Among calls that are made one after the other the history refuses an equation that is submitted,
and what is typed in the end follows that equation and its value. -/
def OvertypesRefused (s : Session) (calls : List Call) : Prop :=
  ∃ before call, before ++ [call] <+: calls ∧ (s.after before).RefusesSubmit call ∧
    (s.after calls).Overtypes (s.after before).equation

/-- An equation that shows the same as the display trails it. -/
lemma trails_of_eq {s : Session} (h : s.equation = s.display) : s.Trails :=
  ⟨0, h.trans (String.empty_append).symm⟩

/-- Where an equation is typed after a call, the display shows it anew, or the history has refused
it, or it was typed before, and what the display shows of it is as it was. -/
lemma trails_next (s : Session) (call : Call) (typing : (s.next call).isNew = false) :
    (s.next call).Trails ∨
      s.RefusesSubmit call ∧ (s.next call).Overtypes s.equation ∨
      s.isNew = false ∧ (s.Trails → (s.next call).Trails) ∧
        ∀ submitted, s.Overtypes submitted → (s.next call).Overtypes submitted := by
  obtain ⟨now, op⟩ := call
  have heffect := s.effect_next ⟨now, op⟩
  unfold RefusesSubmit
  generalize s.next ⟨now, op⟩ = s', s.answer ⟨now, op⟩ = answer at heffect typing ⊢
  cases heffect with
  | begun | recalled | unapplied => exact Or.inl (trails_of_eq rfl)
  | @continued text typed =>
    refine Or.inr (Or.inr ⟨typed, fun ⟨n, hequation⟩ => exists_zeros_typed hequation text, ?_⟩)
    rintro submitted ⟨x, before, n, hvalue, hequation, hshown⟩
    obtain ⟨m, hm⟩ := exists_zeros_typed hshown text
    have hlonger : s.equation ++ text = submitted ++ (before ++ text) := by
      rw [hequation, String.append_assoc]
    rw [String.append_assoc] at hm
    exact ⟨x, before ++ text, m, hvalue, hlonger, hm⟩
  | @unsubmitted x history failure value keeps =>
    -- Nothing has been typed yet since the value was shown.
    have hequation : s.equation = s.equation ++ "" := (String.append_empty).symm
    have hshown : x.display ++ "" = zeros 0 ++ x.display :=
      (String.append_empty).trans (String.empty_append).symm
    exact Or.inr (Or.inl ⟨⟨rfl, _, rfl⟩, x, "", 0, value, hequation, hshown⟩)
  | failed | submitted | cleared | outside | applied | converted | unconverted => cases typing
  | added | subtracted | forgotten | noFunction | noCategory | noUnit =>
    exact Or.inr (Or.inr ⟨typing, id, fun _ => id⟩)

/-- Throughout a run, an equation that is typed is what the display shows, but for zeros in front,
or it follows one that the history refused. -/
lemma trails_or_overtypes (history : Option Store) (calls : List Call)
    (typing : ((start history).after calls).isNew = false) :
    ((start history).after calls).Trails ∨ (start history).OvertypesRefused calls := by
  induction calls using List.reverseRecOn with
  | nil => cases typing
  | append_singleton calls call ih =>
    rw [after_concat] at typing ⊢
    rcases trails_next _ call typing with htrails | ⟨hrefused, hovertypes⟩ |
      ⟨hbefore, htrails, hovertypes⟩
    · exact Or.inl htrails
    · refine Or.inr ⟨calls, call, List.prefix_rfl, hrefused, ?_⟩
      rwa [after_concat]
    · refine (ih hbefore).imp htrails ?_
      rintro ⟨before, refused, hprefix, hrefused, hfollows⟩
      refine ⟨before, refused, hprefix.trans (List.prefix_append _ _), hrefused, ?_⟩
      rw [after_concat]
      exact hovertypes _ hfollows

/-- In every session, texts that are typed one after the other do what their concatenation does, but
for the display. Throughout a run, an equation that is typed is what the display shows behind zeros,
or it follows one that was submitted and that the history refused, and the display shows the value
of that one in its place. -/
theorem trails_run :
    (∀ (s : Session) (text : String) (texts : List String),
      (s.pressAll (text :: texts)).Agrees (s.press (String.join (text :: texts)))) ∧
    ∀ (history : Option Store) (calls : List Call),
      ((start history).after calls).isNew = false →
        ((start history).after calls).Trails ∨ (start history).OvertypesRefused calls :=
  ⟨pressAll_agrees, trails_or_overtypes⟩

/-- No zeros in front of a text change its last character. -/
lemma getLast?_zeros_append {text : String} {c : Char} (h : text.toList.getLast? = some c)
    (n : Nat) : (zeros n ++ text).toList.getLast? = some c := by
  rw [String.toList_append, List.getLast?_append, h]
  rfl

/-- Where the history refuses a sum that is submitted, its value stands beside it. -/
lemma value_beside_refused {store next : Store} {failure : StoreFailure}
    (refused : ∀ result, store.record Store.sampleMoment "1+1" result RecordKind.standard.name =
      (next, .error failure)) :
    ((start (some store)).after [⟨Store.sampleMoment, .press "1+1"⟩, sampleSubmit]).isNew = false ∧
      ¬((start (some store)).after [⟨Store.sampleMoment, .press "1+1"⟩, sampleSubmit]).Trails := by
  have hafter : (start (some store)).after [⟨Store.sampleMoment, .press "1+1"⟩, sampleSubmit] =
      (sampleTyped store).next sampleSubmit := rfl
  rw [hafter, (submit_sample_of_refused refused).2]
  refine ⟨rfl, fun ⟨n, hequation⟩ => ?_⟩
  have hlast : (zeros n ++ "2").toList.getLast? = some '2' := getLast?_zeros_append (by decide) n
  have hsum : (sampleTyped store).equation = "1+1" := rfl
  rw [← hequation, hsum] at hlast
  revert hlast
  decide

/-- For a user name that is too long the value of a sum that is submitted stands beside the sum. -/
theorem value_beside_equation :
    ((start (some sampleLong)).after
        [⟨Store.sampleMoment, .press "1+1"⟩, sampleSubmit]).isNew = false ∧
      ¬((start (some sampleLong)).after
        [⟨Store.sampleMoment, .press "1+1"⟩, sampleSubmit]).Trails :=
  value_beside_refused fun _ =>
    Store.record_missing_of_long_name Store.isFileName_longUser Store.isLookedUp_longUser ..

end Session

end Calculator
