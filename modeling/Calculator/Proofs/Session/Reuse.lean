import Calculator.Proofs.Display
import Calculator.Proofs.Expression.Outcome
import Calculator.Proofs.History.Runs
import Calculator.Proofs.Session.Effects

/-!
# Results that are calculated with again

A recalled memory, the value of a function and a converted quantity become the equation of the
session. That equation has the value of the number again if the number needs no exponent, and
otherwise it is refused at its exponent mark (`Session.results_reread`). Numbers that need an
exponent do come up (`Session.recall_refused`).
-/

namespace Calculator

namespace Session

/-- The equation after a function is applied displays the value, which is finite. -/
lemma equation_of_scientific {s s' : Session} {now : Moment} {name : String} {y : Double}
    (h : s.scientific now name = (s', .ok (.result (.ok y)))) :
    y.isFinite = true ∧ s'.equation = y.display := by
  have heffect := effect_scientific s now name
  rw [h] at heffect
  cases heffect with
  | applied known value keeps =>
    obtain ⟨rfl, hfinite⟩ := finite?_eq_ok value
    exact ⟨hfinite, rfl⟩

/-- The equation after a conversion displays the converted quantity. -/
lemma equation_of_convert {s s' : Session} {now : Moment} {x y : Double}
    {category source target : String}
    (h : s.convert now x category source target = (s', .ok (.converted y))) :
    s'.equation = y.display := by
  have heffect := effect_convert s now x category source target
  rw [h] at heffect
  cases heffect with
  | converted known value keeps => rfl

/-- A finite number that the session makes its equation is read again as the number if it needs no
exponent, and otherwise it is refused at the exponent mark. A recalled memory that needs no exponent
is submitted to its own value, unless the history refuses it. -/
theorem results_reread (s : Session) :
    (s.memory.value.isFinite = true →
      Rereads s.memoryRecall.equation s.memory.value ∧
      (s.memory.value.IsPositional → ∀ now,
        (∃ y, (s.memoryRecall.submit now).2 = .ok (.result (.ok y)) ∧
          y.equal s.memory.value = true) ∨
        ∃ failure, (s.memoryRecall.submit now).2 = .error (.store failure))) ∧
    (∀ now name s' y, s.scientific now name = (s', .ok (.result (.ok y))) →
      Rereads s'.equation y) ∧
    ∀ now x category source target s' y,
      s.convert now x category source target = (s', .ok (.converted y)) → y.isFinite = true →
        Rereads s'.equation y := by
  refine ⟨fun hfinite => ?_, fun now name s' y h => ?_,
    fun now x category source target s' y h hy => ?_⟩
  · have hrereads : Rereads s.memoryRecall.equation s.memory.value := rereads_display hfinite
    refine ⟨hrereads, fun hpositional now => ?_⟩
    obtain ⟨y, hvalue, hequal⟩ := hrereads.value hpositional
    rcases (submit_of_ok hvalue now).2 with hsubmit | hrefused
    · exact Or.inl ⟨y, hsubmit, hequal⟩
    · exact Or.inr hrefused
  · obtain ⟨hfinite, hequation⟩ := equation_of_scientific h
    rw [hequation]
    exact rereads_display hfinite
  · rw [equation_of_convert h]
    exact rereads_display hy

/-- A session whose memory holds `10 ^ 16`. -/
def ofGreatMemory : Session :=
  (start none).after [⟨Store.sampleMoment, .press "10000000000000000"⟩,
    ⟨Store.sampleMoment, .memoryAdd⟩]

/-- The memory `10 ^ 16` is finite, but recalled as an equation it has no value. -/
theorem recall_refused :
    ofGreatMemory.memory.value.isFinite = true ∧
      ∀ y, evaluate ofGreatMemory.memoryRecall.equation ≠ .ok y := by
  have hfinite : ofGreatMemory.memory.value.isFinite = true := by decide +kernel
  have hexponent : ¬ofGreatMemory.memory.value.IsPositional := by decide +kernel
  refine ⟨hfinite, fun y hy => ?_⟩
  obtain ⟨before, rest, -, herror⟩ := (rereads_display hfinite).mark hexponent
  cases herror.symm.trans hy

end Session

end Calculator
