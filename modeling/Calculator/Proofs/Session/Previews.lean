import Calculator.Proofs.Display
import Calculator.Proofs.Expression.Outcome
import Calculator.Proofs.History.Runs
import Calculator.Proofs.Session.Effects
import Mathlib.Data.List.Induction

/-!
# Previews

While an equation is typed, the preview shows its value; between two equations it is empty
(`Session.Previewed`). Two calls can break this (`Session.Strands`): a conversion leaves the preview
of the equation that it puts an end to, and a function whose value the history refuses leaves the
preview of the equation that it replaces. Every other call keeps it, so a run without such calls
keeps it throughout (`Session.previewed_run`). A conversion does break it
(`Session.preview_left_by_conversion`).
-/

namespace Calculator

/-! ### Displayed values -/

/-- A finite number is displayed by a text that is neither empty nor that of an error. -/
lemma Double.display_ne {x : Double} (h : x.isFinite = true) :
    x.display ≠ "" ∧ x.display ≠ Session.errorDisplay := by
  cases x with
  | finite negative m =>
    obtain ⟨c, rest, hchars, hfirst⟩ := exists_displayChars_eq_cons negative m
    have hlist : (display (.finite negative m)).toList = c :: rest := by
      rw [display, String.toList_ofList, hchars]
    have hne : c ≠ 'E' := by
      rintro rfl
      exact absurd hfirst (by decide)
    constructor
    · intro hempty
      rw [hempty] at hlist
      cases hlist
    · intro herror
      rw [herror] at hlist
      exact hne (List.cons.inj hlist).1.symm
  | nan => cases h
  | infinite negative => cases h

namespace Session

/-- The preview of an equation with a value shows the value. -/
lemma previewOf_of_ok {equation : String} {x : Double} (h : evaluate equation = .ok x) :
    previewOf equation = x.display := by
  simp only [previewOf, h]

/-- The preview of an equation without a value is empty. -/
lemma previewOf_of_error {equation : String} {e : Error} (h : evaluate equation = .error e) :
    previewOf equation = "" := by
  simp only [previewOf, h]

/-- An equation is submitted to its preview, or to an error if the preview is empty. -/
theorem display_submit (s : Session) (now : Moment) :
    (s.submit now).1.display =
        (if previewOf s.equation = "" then errorDisplay else previewOf s.equation) ∧
      ((s.submit now).1.display = errorDisplay ↔ previewOf s.equation = "") := by
  cases hvalue : evaluate s.equation with
  | error e =>
    rw [(submit_of_error hvalue now).1, previewOf_of_error hvalue]
    exact ⟨rfl, fun _ => rfl, fun _ => rfl⟩
  | ok x =>
    obtain ⟨hempty, herror⟩ := Double.display_ne (isFinite_of_evaluate hvalue)
    rw [(submit_of_ok hvalue now).1, previewOf_of_ok hvalue, if_neg hempty]
    exact ⟨rfl, fun h => absurd h herror, fun h => absurd h hempty⟩

/-! ### One call -/

/-- The preview shows the value of the equation that is typed, and nothing otherwise. -/
def Previewed (s : Session) : Prop :=
  s.preview = if s.isNew then "" else previewOf s.equation

/-- An operation after which the preview does not belong to the session: a conversion while a
preview is shown, or a function whose value is refused by the history while an equation is typed
that has another preview than the value. -/
inductive Strands (s : Session) (now : Moment) : Operation → Prop
  | conversion {x y : Double} {category source target : String} {c : Category}
      (known : Category.ofName? category = some c)
      (value : Calculator.convert x c source target = .ok y) (shown : s.preview ≠ "") :
      Strands s now (.convert x category source target)
  | function {name : String} {f : ScientificFunction} {y : Double} {failure : StoreFailure}
      (known : ScientificFunction.ofName? name = some f) (value : f.apply s.displayValue = .ok y)
      (refused : (s.scientific now name).2 = .error (.store failure))
      (typing : s.isNew = false) (other : s.preview ≠ previewOf y.display) :
      Strands s now (.scientific name)

/-- Between two equations the preview is empty. -/
lemma previewed_of_new {s : Session} (h : s.isNew = true) : s.Previewed ↔ s.preview = "" := by
  rw [Previewed, if_pos h]

/-- While an equation is typed, the preview is that of the equation. -/
lemma previewed_of_typing {s : Session} (h : s.isNew = false) :
    s.Previewed ↔ s.preview = previewOf s.equation := by
  rw [Previewed, if_neg (by simp [h])]

/-- A conversion that is carried out strands whatever preview is shown. -/
lemma strands_convert_iff (s : Session) {now : Moment} {x y : Double}
    {category source target : String} {c : Category} (known : Category.ofName? category = some c)
    (value : Calculator.convert x c source target = .ok y) :
    ¬s.Strands now (.convert x category source target) ↔ s.preview = "" := by
  constructor
  · intro h
    by_cases hpreview : s.preview = ""
    · exact hpreview
    · exact absurd (.conversion known value hpreview) h
  · rintro hpreview ⟨⟩
    contradiction

/-- A preview that belongs to the session still does so after a call, unless the call strands it. -/
lemma previewed_next_iff {s : Session} (h : s.Previewed) (call : Call) :
    (s.next call).Previewed ↔ ¬s.Strands call.now call.operation := by
  obtain ⟨now, op⟩ := call
  have heffect := s.effect_next ⟨now, op⟩
  simp only at heffect ⊢
  generalize hnext : s.next ⟨now, op⟩ = s', hanswer : s.answer ⟨now, op⟩ = answer at heffect ⊢
  cases heffect with
  | begun | continued | failed | submitted | cleared | recalled =>
    -- The preview is set together with the equation, or cleared with the equation finished.
    refine iff_of_true rfl ?_
    rintro ⟨⟩
  | unsubmitted | added | subtracted | forgotten =>
    -- Preview, equation and whether it is finished are left as they are.
    refine iff_of_true h ?_
    rintro ⟨⟩
  | noFunction unknown =>
    refine iff_of_true h ?_
    rintro (_ | ⟨known, -, -, -, -⟩)
    cases unknown.symm.trans known
  | outside | applied =>
    refine iff_of_true rfl ?_
    rintro (_ | ⟨-, -, refused, -, -⟩)
    cases hanswer.symm.trans refused
  | @unapplied name f y history failure known value keeps =>
    -- The equation becomes the value, while the preview stays that of the equation before.
    cases hnew : s.isNew with
    | true =>
      refine iff_of_true ((previewed_of_new rfl).mpr ((previewed_of_new hnew).mp h)) ?_
      rintro (_ | ⟨-, -, -, typing, -⟩)
      cases hnew.symm.trans typing
    | false =>
      refine (previewed_of_typing rfl).trans ⟨?_, ?_⟩
      · rintro heq (_ | ⟨known', value', -, -, other⟩)
        obtain rfl := Option.some.inj (known.symm.trans known')
        cases value.symm.trans value'
        exact other heq
      · intro hkept
        by_cases heq : s.preview = previewOf y.display
        · exact heq
        · exact absurd (.function known value hanswer hnew heq) hkept
  | noCategory unknown =>
    refine iff_of_true h ?_
    rintro ⟨known, -, -⟩
    cases unknown.symm.trans known
  | noUnit known unknown =>
    refine iff_of_true h ?_
    rintro ⟨known', value, -⟩
    obtain rfl := Option.some.inj (known.symm.trans known')
    cases unknown.symm.trans value
  | converted known value keeps | unconverted known value keeps =>
    exact (previewed_of_new rfl).trans (s.strands_convert_iff known value).symm

/-! ### Runs -/

/-- The preview of a new session belongs to it. -/
lemma previewed_start (history : Option Store) : (start history).Previewed := rfl

/-- While an equation is typed, the preview is that of the equation, also after a call, unless the
history refuses the calculation. -/
lemma typed_next {s : Session} (h : s.isNew = false → s.preview = previewOf s.equation)
    (call : Call) :
    (∃ failure, s.answer call = .error (.store failure)) ∨
      ((s.next call).isNew = false → (s.next call).preview = previewOf (s.next call).equation) := by
  have heffect := s.effect_next call
  generalize s.next call = s', s.answer call = answer, call.operation = op at heffect ⊢
  cases heffect with
  | begun | continued | recalled => exact Or.inr fun _ => rfl
  | failed | submitted | cleared | outside | applied | converted => exact Or.inr nofun
  | unsubmitted | unapplied | unconverted => exact Or.inl ⟨_, rfl⟩
  | added | subtracted | forgotten | noFunction | noCategory | noUnit => exact Or.inr h

/-- The preview foretells what is shown when the equation is submitted: the preview itself, or an
error just when the preview is empty. -/
def Foretells (s : Session) : Prop :=
  ∀ now, (s.submit now).1.display = (if s.preview = "" then errorDisplay else s.preview) ∧
    ((s.submit now).1.display = errorDisplay ↔ s.preview = "")

/-- The preview of the equation foretells what is shown. -/
lemma foretells_of_eq {s : Session} (h : s.preview = previewOf s.equation) : s.Foretells := by
  intro now
  rw [h]
  exact s.display_submit now

/-- Throughout a run the preview belongs to the session just when no call strands it. Unless the
history refuses a calculation, an equation that is typed has its preview in any case, which
foretells what is shown when it is submitted. -/
theorem previewed_run (history : Option Store) (calls : List Call) :
    ((∀ before, before <+: calls → ((start history).after before).Previewed) ↔
      ∀ before call, before ++ [call] <+: calls →
        ¬((start history).after before).Strands call.now call.operation) ∧
    ((∃ before call failure, before ++ [call] <+: calls ∧
        ((start history).after before).answer call = .error (.store failure)) ∨
      ∀ before, before <+: calls → ((start history).after before).isNew = false →
        ((start history).after before).preview =
          previewOf ((start history).after before).equation ∧
        ((start history).after before).Foretells) := by
  have hinit : ∀ {before call}, before ++ [call] <+: calls → before <+: calls :=
    fun h => (List.prefix_append _ _).trans h
  refine ⟨⟨fun h before call hcall => ?_, fun h before => ?_⟩, ?_⟩
  · have hafter := h _ hcall
    rw [after_concat] at hafter
    exact (previewed_next_iff (h before (hinit hcall)) call).mp hafter
  · -- By induction on the calls that are made, from the first one on.
    induction before using List.reverseRecOn with
    | nil => exact fun _ => previewed_start history
    | append_singleton before call ih =>
      intro hcall
      rw [after_concat]
      exact (previewed_next_iff (ih (hinit hcall)) call).mpr (h before call hcall)
  · refine or_iff_not_imp_left.mpr fun haccepted before hbefore hnew => ?_
    have htyped : ((start history).after before).isNew = false →
        ((start history).after before).preview =
          previewOf ((start history).after before).equation := by
      clear hnew
      induction before using List.reverseRecOn with
      | nil => exact nofun
      | append_singleton before call ih =>
        rw [after_concat]
        refine (typed_next (ih (hinit hbefore)) call).resolve_left ?_
        rintro ⟨failure, hrefused⟩
        exact haccepted ⟨before, call, failure, hbefore, hrefused⟩
    exact ⟨htyped hnew, foretells_of_eq (htyped hnew)⟩

/-- A number that is typed leaves its preview behind when a quantity is converted. -/
theorem preview_left_by_conversion :
    ¬((start none).after [⟨Store.sampleMoment, .press "1"⟩,
      ⟨Store.sampleMoment, .convert 2 "length" "km" "m"⟩]).Previewed := by
  have hfinite : (Double.ofNat 1).isFinite = true := by decide +kernel
  have htext : "1".toList = Double.signText false (Numeral.text ⟨digits 1, []⟩) := by
    rw [Numeral.text_digits, digits_of_lt_ten (by decide)]
    rfl
  have hvalue : evaluate "1" = .ok (.ofNat 1) := by
    rw [evaluate, htext, evaluateChars_text (Numeral.isProper_digits 1), Numeral.value_digits,
      if_neg Bool.false_ne_true, finite?, if_pos hfinite]
  have hshown : previewOf "1" ≠ "" := by
    rw [previewOf_of_ok hvalue]
    exact (Double.display_ne hfinite).1
  obtain ⟨y, hconverted⟩ : ∃ y, Calculator.convert 2 .length "km" "m" = .ok y := ⟨_, rfl⟩
  have htyped : ((start none).next ⟨Store.sampleMoment, .press "1"⟩).Previewed := by
    refine (previewed_next_iff (previewed_start none) _).mpr ?_
    rintro ⟨⟩
  intro h
  exact (previewed_next_iff htyped _).mp h (.conversion rfl hconverted hshown)

end Session

end Calculator
