import Calculator.Proofs.Expression.LeadingZeros
import Calculator.Proofs.History.Runs
import Calculator.Proofs.Session.Typing

/-!
# What the display shows of the equation

While an equation is typed, the display shows it without zeros that stood alone when something was
typed behind them. What is shown and what will be submitted are both refused, or have equal values,
unless zeros are missing and the rest is misread without them (`Session.shows_run`). That happens
when an operator other than a minus sign is typed behind a lone zero
(`Session.lone_zero_not_shown`).
-/

namespace Calculator

namespace Session

/-- The display shows a calculation with the outcome of the equation. -/
def ShowsOutcome (s : Session) : Prop :=
  SameOutcome (evaluate s.display) (evaluate s.equation)

/-- The characters of zeros and a text behind them. -/
lemma toList_zeros_append (n : Nat) (text : String) :
    (zeros n ++ text).toList = List.replicate n '0' ++ text.toList := by
  rw [String.toList_append, zeros, String.toList_ofList]

/-- An equation that is the display behind zeros is shown with its outcome if there are no zeros, or
if the display is not misread behind them. -/
lemma showsOutcome_iff {s : Session} {n : Nat} (h : s.equation = zeros n ++ s.display) :
    s.ShowsOutcome ↔ n = 0 ∨ ¬Misread n s.display.toList := by
  have hchars : evaluate s.equation =
      evaluateChars (List.replicate n '0' ++ s.display.toList) := by
    rw [evaluate, h, toList_zeros_append]
  rw [ShowsOutcome, hchars, evaluate]
  by_cases hn : n = 0
  · subst hn
    exact iff_of_true (sameOutcome_self _) (Or.inl rfl)
  · rw [sameOutcome_zeros_iff (Nat.pos_of_ne_zero hn), or_iff_right hn]

/-- The equation is the display behind zeros, and it is shown with its outcome just when there are
no zeros or the display is not misread behind them. -/
def ShowsUnlessMisread (s : Session) : Prop :=
  ∃ n, s.equation = zeros n ++ s.display ∧
    (s.ShowsOutcome ↔ n = 0 ∨ ¬Misread n s.display.toList)

/-- Throughout a run, an equation that is typed is shown with its outcome unless zeros are missing
and the rest is misread without them; or it follows one that was submitted and that the history
refused, and the display shows the value of that one in its place. -/
theorem shows_run (history : Option Store) (calls : List Call)
    (typing : ((start history).after calls).isNew = false) :
    ((start history).after calls).ShowsUnlessMisread ∨ (start history).OvertypesRefused calls :=
  (trails_or_overtypes history calls typing).imp_left fun ⟨n, hequation⟩ =>
    ⟨n, hequation, showsOutcome_iff hequation⟩

/-- A zero and a five behind it are typed. -/
def sampleDigits : List Call :=
  [⟨Store.sampleMoment, .press "0"⟩, ⟨Store.sampleMoment, .press "5"⟩]

/-- The five is what the display shows of the equation. -/
theorem shows_run_digits :
    ((start none).after sampleDigits).isNew = false ∧
      (((start none).after sampleDigits).ShowsUnlessMisread ∨
        (start none).OvertypesRefused sampleDigits) :=
  ⟨rfl, shows_run none sampleDigits rfl⟩

/-- A session in which a zero, a plus sign and a one are typed. -/
def sampleSum : Session :=
  (start none).after [⟨Store.sampleMoment, .press "0"⟩, ⟨Store.sampleMoment, .press "+"⟩,
    ⟨Store.sampleMoment, .press "1"⟩]

/-- The display shows the sum without its zero, which is refused, while the equation has a value. -/
theorem lone_zero_not_shown :
    sampleSum.isNew = false ∧ sampleSum.display = "+1" ∧ sampleSum.equation = "0+1" ∧
      ¬sampleSum.ShowsOutcome := by
  have hdisplay : sampleSum.display = "+1" := by decide +kernel
  have hequation : sampleSum.equation = "0+1" := by decide +kernel
  have hrefused : evaluate "+1" = .error (.placed .parsing .unexpectedToken 0) := by
    decide +kernel
  have hvalue : (evaluate "0+1").toOption.map (·.display) = some "1" := by decide +kernel
  refine ⟨rfl, hdisplay, hequation, ?_⟩
  rw [ShowsOutcome, hdisplay, hequation, hrefused, sameOutcome_error_iff]
  intro hno
  cases hsum : evaluate "0+1" with
  | ok x => exact hno x hsum
  | error e =>
    rw [hsum] at hvalue
    cases hvalue

end Session

end Calculator
