import Calculator.Expression.Evaluation
import Calculator.Proofs.Expression.Derivation

/-!
# Values computed with stacks

The stacks compute the recursive value of an expression (`Expr.run_eq_value`): a visit puts the
value of its expression on the stack of values, whatever is left to do behind it and whatever lies
on the stack below. So the stack of values is never found empty where an operand is taken.

An expression without holes fails at a zero divisor or not at all (`Expr.IsWhole.value_cases`), and
every expression that is read from a source is without holes (`Expr.isWhole_of_ofStream?`).
-/

namespace Calculator

/-- An operation fails at a zero divisor or not at all. -/
lemma Operator.apply_cases (op : Operator) (a b : Double) :
    (∃ x, op.apply a b = .ok x) ∨ op.apply a b = .error .divisionByZero := by
  cases op with
  | plus => exact Or.inl ⟨_, rfl⟩
  | minus => exact Or.inl ⟨_, rfl⟩
  | times => exact Or.inl ⟨_, rfl⟩
  | _ =>
    unfold Operator.apply
    cases b.isZero <;> simp

namespace Expr

/-! ### The stacks and the recursion -/

/-- A visit leaves the value of its expression on the stack, or fails as the expression does. -/
lemma perform_visit (e : Expr) (tasks : List Task) (values : List Double) :
    perform (.visit e :: tasks) values =
      match e.value with
      | .ok x => perform tasks (x :: values)
      | .error fault => .error fault := by
  induction e generalizing tasks values with
  | literal x => simp only [perform, value]
  | negation operand ih =>
    rw [perform, ih, value]
    cases operand.value with
    | error fault => rfl
    | ok x => simp only [perform]
  | binary op position left right ihl ihr =>
    rw [perform, ihl, value]
    cases left.value with
    | error fault => rfl
    | ok a =>
      simp only [ihr]
      cases right.value with
      | error fault => rfl
      | ok b =>
        cases hop : op.apply a b <;> simp only [perform, hop]
  | hole => simp only [perform, value]

/-- The value that is computed with stacks is the recursive value. -/
theorem run_eq_value (e : Expr) : e.run = e.value := by
  rw [run, perform_visit]
  cases e.value with
  | error fault => rfl
  | ok x => simp only [perform]

/-! ### Expressions without holes -/

/-- An expression without holes. -/
def IsWhole : Expr → Prop
  | .literal _ => True
  | .negation operand => operand.IsWhole
  | .binary _ _ left right => left.IsWhole ∧ right.IsWhole
  | .hole => False

/-- An expression without holes has a value, or a divisor in it is zero. -/
lemma IsWhole.value_cases {e : Expr} (h : e.IsWhole) :
    (∃ x, e.value = .ok x) ∨ e.value = .error .divisionByZero := by
  induction e with
  | literal x => exact Or.inl ⟨x, rfl⟩
  | negation operand ih =>
    rcases ih h with ⟨x, hx⟩ | hzero
    · exact Or.inl ⟨-x, by rw [value, hx]⟩
    · exact Or.inr (by rw [value, hzero])
  | binary op position left right ihl ihr =>
    obtain ⟨hleft, hright⟩ := h
    rcases ihl hleft with ⟨a, ha⟩ | hzero
    · rcases ihr hright with ⟨b, hb⟩ | hzero
      · rw [value, ha, hb]
        exact op.apply_cases a b
      · exact Or.inr (by rw [value, ha, hzero])
    · exact Or.inr (by rw [value, hzero])
  | hole => exact h.elim

end Expr

namespace Grammar

mutual

/-- A sum denotes an expression without holes. -/
lemma Sum.isWhole_expr (s : Sum) : s.expr.IsWhole := by
  match s with
  | .chain first terms => exact Terms.isWhole_expr terms (Term.isWhole_expr first)

/-- Further terms add no hole. -/
lemma Terms.isWhole_expr (ts : Terms) {left : Expr} (h : left.IsWhole) :
    (ts.expr left).IsWhole := by
  match ts with
  | .nil => exact h
  | .cons op _ position term terms =>
    have hleft : (Expr.binary op position left term.expr).IsWhole := ⟨h, Term.isWhole_expr term⟩
    exact Terms.isWhole_expr terms hleft

/-- A term denotes an expression without holes. -/
lemma Term.isWhole_expr (t : Term) : t.expr.IsWhole := by
  match t with
  | .chain first factors => exact Factors.isWhole_expr factors (Factor.isWhole_expr first)

/-- Further factors add no hole. -/
lemma Factors.isWhole_expr (fs : Factors) {left : Expr} (h : left.IsWhole) :
    (fs.expr left).IsWhole := by
  match fs with
  | .nil => exact h
  | .cons op _ position factor factors =>
    have hleft : (Expr.binary op position left factor.expr).IsWhole :=
      ⟨h, Factor.isWhole_expr factor⟩
    exact Factors.isWhole_expr factors hleft

/-- A factor denotes an expression without holes. -/
lemma Factor.isWhole_expr (f : Factor) : f.expr.IsWhole := by
  match f with
  | .negation _ operand => exact Factor.isWhole_expr operand
  | .primary operand => exact Primary.isWhole_expr operand

/-- A primary denotes an expression without holes. -/
lemma Primary.isWhole_expr (p : Primary) : p.expr.IsWhole := by
  match p with
  | .number _ _ => exact trivial
  | .group _ s _ => exact Sum.isWhole_expr s

end

end Grammar

/-- An expression that is read from a stream has no holes. -/
lemma Expr.isWhole_of_ofStream? {stream : TokenStream} {e : Expr} (h : ofStream? stream = .ok e) :
    e.IsWhole := by
  obtain ⟨-, s, -, rfl⟩ := Grammar.exists_derivation_of_ofStream? h
  exact s.isWhole_expr

end Calculator
