import Calculator.Proofs.Expression.Outcome

/-!
# The not-a-number within expressions

Only the value of a whole expression is tested for being finite. Within an expression infinities may
come up and vanish again, but a not-a-number stays: where a subexpression is one, the expression is
one as well, unless a divisor is zero (`Expr.eq_nan_of_mem`). So the test finds it, and an
expression that passes the test has been computed without one (`Expr.IsSound`): no subexpression is
a not-a-number, no divisor is zero, and a remainder is taken of finite numbers only.
-/

namespace Calculator

/-! ### Arithmetic with the not-a-number -/

namespace Double

/-- The opposite of the not-a-number is itself. -/
lemma neg_nan : -nan = nan := rfl

/-- A sum with a not-a-number is one. -/
lemma add_eq_nan {a b : Double} (h : a = nan ∨ b = nan) : a + b = nan := by
  rcases h with rfl | rfl
  · rfl
  · cases a <;> rfl

/-- A difference with a not-a-number is one. -/
lemma sub_eq_nan {a b : Double} (h : a = nan ∨ b = nan) : a - b = nan := by
  have hopposite : a = nan ∨ -b = nan := h.imp_right fun hb => by rw [hb, neg_nan]
  exact add_eq_nan hopposite

/-- A product with a not-a-number is one. -/
lemma mul_eq_nan {a b : Double} (h : a = nan ∨ b = nan) : a * b = nan := by
  rcases h with rfl | rfl
  · rfl
  · cases a <;> rfl

/-- A quotient with a not-a-number is one. -/
lemma div_eq_nan {a b : Double} (h : a = nan ∨ b = nan) : a / b = nan := by
  rcases h with rfl | rfl
  · rfl
  · cases a <;> rfl

/-- A remainder with an infinity or a not-a-number is a not-a-number. -/
lemma mod_eq_nan {a b : Double} (h : a.isFinite = false ∨ b.isFinite = false) : a % b = nan := by
  cases a with
  | finite s m =>
    cases b with
    | finite t n => rcases h with h | h <;> cases h
    | nan | infinite => rfl
  | nan | infinite => rfl

end Double

namespace Operator

/-- The operations that have a divisor. -/
def Divides (op : Operator) : Prop := op = .over ∨ op = .modulo

/-- An operation on a not-a-number has a not-a-number for its result, or its divisor is zero. -/
lemma apply_of_nan (op : Operator) {a b : Double} (h : a = .nan ∨ b = .nan) :
    op.apply a b = .ok .nan ∨ op.apply a b = .error .divisionByZero := by
  match op with
  | .plus => exact Or.inl (congrArg Except.ok (Double.add_eq_nan h))
  | .minus => exact Or.inl (congrArg Except.ok (Double.sub_eq_nan h))
  | .times => exact Or.inl (congrArg Except.ok (Double.mul_eq_nan h))
  | .over =>
    unfold apply
    rw [Double.div_eq_nan h]
    cases b.isZero <;> simp
  | .modulo =>
    have hfinite : a.isFinite = false ∨ b.isFinite = false := by
      rcases h with rfl | rfl
      · exact Or.inl rfl
      · exact Or.inr rfl
    unfold apply
    rw [Double.mod_eq_nan hfinite]
    cases b.isZero <;> simp

/-- An operation with a divisor has a result only if the divisor is not zero. -/
lemma Divides.isZero_eq_false {op : Operator} (h : op.Divides) {a b x : Double}
    (hresult : op.apply a b = .ok x) : b.isZero = false := by
  cases hzero : b.isZero with
  | false => rfl
  | true => rcases h with rfl | rfl <;> simp [apply, hzero] at hresult

/-- A remainder that is a number is that of finite numbers. -/
lemma isFinite_of_modulo {a b x : Double} (h : modulo.apply a b = .ok x) (hx : x ≠ .nan) :
    a.isFinite = true ∧ b.isFinite = true := by
  have hzero : b.isZero = false := Divides.isZero_eq_false (Or.inr rfl) h
  have hmod : a % b = x := by simpa [apply, hzero] using h
  by_contra hnot
  have hinfinite : a.isFinite = false ∨ b.isFinite = false := by
    simpa only [not_and_or, Bool.not_eq_true] using hnot
  exact hx (hmod.symm.trans (Double.mod_eq_nan hinfinite))

end Operator

namespace Expr

/-! ### Subexpressions -/

/-- The subexpressions of an expression, itself among them. -/
def subexpressions : Expr → List Expr
  | .literal x => [.literal x]
  | .negation operand => .negation operand :: operand.subexpressions
  | .binary op position left right =>
    .binary op position left right :: (left.subexpressions ++ right.subexpressions)
  | .hole => [.hole]

/-- An operand of a negation that has a value has one. -/
lemma value_negation_eq_ok {operand : Expr} {x : Double}
    (h : (negation operand).value = .ok x) : ∃ a, operand.value = .ok a ∧ -a = x := by
  rw [value] at h
  cases hoperand : operand.value with
  | error fault =>
    rw [hoperand] at h
    cases h
  | ok a =>
    rw [hoperand] at h
    exact ⟨a, rfl, Except.ok.inj h⟩

/-- The operands of an operation that has a value have one. -/
lemma value_binary_eq_ok {op : Operator} {position : Nat} {left right : Expr} {x : Double}
    (h : (binary op position left right).value = .ok x) :
    ∃ a b, left.value = .ok a ∧ right.value = .ok b ∧ op.apply a b = .ok x := by
  rw [value] at h
  cases hleft : left.value with
  | error fault =>
    rw [hleft] at h
    cases h
  | ok a =>
    rw [hleft] at h
    cases hright : right.value with
    | error fault =>
      rw [hright] at h
      cases h
    | ok b =>
      rw [hright] at h
      exact ⟨a, b, rfl, rfl, h⟩

/-- Every subexpression of an expression that has a value has one, and if that is a not-a-number,
then the expression is one as well. -/
lemma value_of_mem {e sub : Expr} (hmem : sub ∈ e.subexpressions) {x : Double}
    (h : e.value = .ok x) : ∃ y, sub.value = .ok y ∧ (y = .nan → x = .nan) := by
  -- By induction on the expression: an operand that is a not-a-number makes the operation one.
  induction e generalizing x with
  | literal a =>
    rw [List.mem_singleton.mp hmem]
    exact ⟨x, h, id⟩
  | hole => cases h
  | negation operand ih =>
    rcases List.mem_cons.mp hmem with rfl | hmem
    · exact ⟨x, h, id⟩
    · obtain ⟨a, hoperand, rfl⟩ := value_negation_eq_ok h
      obtain ⟨y, hsub, hnan⟩ := ih hmem hoperand
      refine ⟨y, hsub, fun hy => ?_⟩
      rw [hnan hy, Double.neg_nan]
  | binary op position left right ihl ihr =>
    rcases List.mem_cons.mp hmem with rfl | hmem
    · exact ⟨x, h, id⟩
    · obtain ⟨a, b, hleft, hright, hresult⟩ := value_binary_eq_ok h
      have hoperation : a = .nan ∨ b = .nan → x = .nan := by
        intro hoperand
        rcases op.apply_of_nan hoperand with hnan | hzero
        · exact Except.ok.inj (hresult.symm.trans hnan)
        · cases hresult.symm.trans hzero
      rcases List.mem_append.mp hmem with hmem | hmem
      · obtain ⟨y, hsub, hnan⟩ := ihl hmem hleft
        exact ⟨y, hsub, fun hy => hoperation (Or.inl (hnan hy))⟩
      · obtain ⟨y, hsub, hnan⟩ := ihr hmem hright
        exact ⟨y, hsub, fun hy => hoperation (Or.inr (hnan hy))⟩

/-- An expression with a subexpression that is a not-a-number is one, or a divisor in it is zero. -/
lemma eq_nan_of_mem {e sub : Expr} (hwhole : e.IsWhole) (hmem : sub ∈ e.subexpressions)
    (hnan : sub.value = .ok .nan) : e.value = .ok .nan ∨ e.value = .error .divisionByZero := by
  refine hwhole.value_cases.imp_left ?_
  rintro ⟨x, hx⟩
  obtain ⟨y, hy, hlost⟩ := value_of_mem hmem hx
  rw [hx, hlost (Except.ok.inj (hy.symm.trans hnan))]

/-! ### Values that pass the test -/

/-- An expression that is computed without a not-a-number: every subexpression has a value that is a
number or an infinity, every divisor is other than zero, and every remainder is one of finite
numbers. -/
structure IsSound (e : Expr) : Prop where
  number : ∀ sub ∈ e.subexpressions, ∃ y, sub.run = .ok y ∧ y ≠ .nan
  divisor : ∀ op position left right, binary op position left right ∈ e.subexpressions →
    op.Divides → ∃ b, right.run = .ok b ∧ b.isZero = false
  remainder : ∀ position left right, binary .modulo position left right ∈ e.subexpressions →
    ∃ a b, left.run = .ok a ∧ right.run = .ok b ∧ a.isFinite = true ∧ b.isFinite = true

/-- An expression whose value is a number or an infinity is computed without a not-a-number. -/
lemma isSound_of_ne_nan {e : Expr} {x : Double} (h : e.value = .ok x) (hx : x ≠ .nan) :
    e.IsSound := by
  have hnumber : ∀ sub ∈ e.subexpressions, ∃ y, sub.value = .ok y ∧ y ≠ .nan := by
    intro sub hmem
    obtain ⟨y, hy, hlost⟩ := value_of_mem hmem h
    exact ⟨y, hy, fun hnan => hx (hlost hnan)⟩
  refine ⟨?_, ?_, ?_⟩
  · intro sub hmem
    rw [run_eq_value]
    exact hnumber sub hmem
  · intro op position left right hmem hdivides
    obtain ⟨y, hy, -⟩ := hnumber _ hmem
    obtain ⟨a, b, -, hright, hresult⟩ := value_binary_eq_ok hy
    exact ⟨b, right.run_eq_value.trans hright, hdivides.isZero_eq_false hresult⟩
  · intro position left right hmem
    obtain ⟨y, hy, hne⟩ := hnumber _ hmem
    obtain ⟨a, b, hleft, hright, hresult⟩ := value_binary_eq_ok hy
    exact ⟨a, b, left.run_eq_value.trans hleft, right.run_eq_value.trans hright,
      Operator.isFinite_of_modulo hresult hne⟩

end Expr

/-- A source with a value is read as an expression that has this value, which is finite. -/
lemma exists_ofText?_of_evaluate {source : String} {x : Double} (h : evaluate source = .ok x) :
    ∃ e, Expr.ofText? source = .ok e ∧ e.run = .ok x ∧ x.isFinite = true := by
  cases hexpr : Expr.ofText? source with
  | error e =>
    have hchars : Expr.ofChars? source.toList = .error e := hexpr
    simp only [evaluate, evaluateChars, hchars] at h
    cases h
  | ok e =>
    have hchars : Expr.ofChars? source.toList = .ok e := hexpr
    simp only [evaluate, evaluateChars, hchars] at h
    cases hrun : e.run with
    | error fault =>
      simp only [hrun] at h
      cases h
    | ok y =>
      simp only [hrun] at h
      obtain ⟨rfl, hfinite⟩ := finite?_eq_ok h
      exact ⟨e, rfl, hrun, hfinite⟩

/-- An expression with a subexpression that is a not-a-number is one, or a divisor in it is zero.
So a source that has a value is computed without a not-a-number, without a divisor that is zero, and
with remainders of finite numbers only. -/
theorem nan_is_kept :
    (∀ e sub : Expr, e.IsWhole → sub ∈ e.subexpressions → sub.run = .ok .nan →
      e.run = .ok .nan ∨ e.run = .error .divisionByZero) ∧
    ∀ source x, evaluate source = .ok x →
      ∃ e, Expr.ofText? source = .ok e ∧ e.run = .ok x ∧ e.IsSound := by
  constructor
  · intro e sub hwhole hmem hnan
    rw [Expr.run_eq_value] at hnan ⊢
    exact Expr.eq_nan_of_mem hwhole hmem hnan
  · intro source x h
    obtain ⟨e, hexpr, hrun, hfinite⟩ := exists_ofText?_of_evaluate h
    have hne : x ≠ .nan := by
      rintro rfl
      cases hfinite
    exact ⟨e, hexpr, hrun, Expr.isSound_of_ne_nan (e.run_eq_value ▸ hrun) hne⟩

/-- An infinite divisor vanishes from a quotient, but it makes a remainder a not-a-number. -/
example :
    (Expr.binary .over 0 (.literal 1) (.literal (.infinite false))).value = .ok 0 ∧
      (Expr.binary .modulo 0 (.literal 1) (.literal (.infinite false))).value = .ok .nan := by
  decide +kernel

end Calculator
