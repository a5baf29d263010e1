import Calculator.Proofs.Double.Signs
import Calculator.Proofs.Expression.Relocation

/-!
# A minus sign in front

A sum that begins with a minus sign negates its first factor. Behind a zero the same sign subtracts
the first term from the zero. Both readings have the same derivation but for the beginning
(`Grammar.exists_eq_negated`, `Grammar.exists_eq_subtracted`). Products, quotients and remainders
take the opposite sign with their first factor, so the two expressions have the same value up to
the sign of a zero (`Grammar.sameValue_negated_subtracted`), and a stream that begins with a minus
sign has the same outcome behind a zero (`TokenStream.sameOutcome_of_minus`).
-/

namespace Calculator

/-! ### Values up to the sign of a zero -/

/-- Values of two expressions that are alike, or the same fault. -/
inductive SameValue : Except Fault Double → Except Fault Double → Prop
  | values {x y : Double} (like : x.Like y) : SameValue (.ok x) (.ok y)
  | faults {fault : Fault} : SameValue (.error fault) (.error fault)

/-- Terms behind `+` and `-` keep the values of sums alike. -/
lemma SameValue.apply {op : Operator} (additive : op.isAdditive = true) {a a' : Double}
    (h : a.Like a') (b : Double) : SameValue (op.apply a b) (op.apply a' b) := by
  cases op with
  | plus => exact .values (h.add b)
  | minus => exact .values (h.add (-b))
  | _ => cases additive

/-- A product, a quotient or a remainder takes the opposite sign with its first number. -/
lemma Operator.apply_neg {op : Operator} (multiplicative : op.isAdditive = false) (a b : Double) :
    op.apply (-a) b = (op.apply a b).map fun x => -x := by
  cases op with
  | plus | minus => cases multiplicative
  | times => exact congrArg Except.ok (Double.neg_mul a b)
  | _ =>
    simp only [apply, Double.neg_div, Double.neg_mod]
    split <;> rfl

/-- The value of a negation is the opposite value. -/
lemma Expr.value_negation (e : Expr) : (negation e).value = e.value.map fun x => -x := by
  rw [value]
  cases e.value <;> rfl

namespace Grammar

/-- Further factors have the opposite value if the first one has. -/
lemma Factors.value_expr_neg (fs : Factors) {left negative : Expr}
    (h : negative.value = left.value.map fun x => -x) :
    (fs.expr negative).value = (fs.expr left).value.map fun x => -x := by
  cases fs with
  | nil => exact h
  | cons op multiplicative position f rest =>
    refine Factors.value_expr_neg rest ?_
    simp only [Expr.value, h]
    cases left.value with
    | error fault => rfl
    | ok a =>
      cases f.expr.value with
      | error fault => rfl
      | ok b => exact op.apply_neg multiplicative a b

/-- Further terms keep values alike. -/
lemma Terms.sameValue_expr (ts : Terms) {left left' : Expr} (h : SameValue left.value left'.value) :
    SameValue (ts.expr left).value (ts.expr left').value := by
  cases ts with
  | nil => exact h
  | cons op additive position t rest =>
    refine Terms.sameValue_expr rest ?_
    simp only [Expr.value]
    generalize left.value = first, left'.value = first' at h ⊢
    cases h with
    | faults => exact .faults
    | values like =>
      cases t.expr.value with
      | error fault => exact .faults
      | ok b => exact .apply additive like b

/-! ### Two derivations -/

/-- A sum whose first factor is negated. -/
def negated (position : Nat) (f : Factor) (fs : Factors) (ts : Terms) : Sum :=
  .chain (.chain (.negation position f) fs) ts

/-- The sum in which the first term is subtracted from a number instead. -/
def subtracted (number : Numeral) (place position : Nat) (f : Factor) (fs : Factors) (ts : Terms) :
    Sum :=
  .chain (.chain (.primary (.number number place)) .nil)
    (.cons .minus rfl position (.chain f fs) ts)

/-- The subtraction has the number as its first token, and then the tokens of the negation. -/
lemma tokens_subtracted (number : Numeral) (place position : Nat) (f : Factor) (fs : Factors)
    (ts : Terms) :
    (subtracted number place position f fs ts).tokens =
      ⟨.number number, place⟩ :: (negated position f fs ts).tokens := by
  simp [subtracted, negated, Sum.tokens, Terms.tokens, Term.tokens, Factors.tokens, Factor.tokens,
    Primary.tokens]

/-- A primary begins with no operator. -/
lemma Primary.tokens_ne_operator (p : Primary) (op : Operator) (position : Nat)
    (rest tokens : List Token) : p.tokens ++ rest ≠ ⟨.operator op, position⟩ :: tokens := by
  intro h
  cases p <;> simp [Primary.tokens] at h

/-- A sum that begins with a minus sign negates its first factor. -/
lemma exists_eq_negated {s : Sum} {position : Nat} {rest : List Token}
    (h : s.tokens = ⟨.operator .minus, position⟩ :: rest) :
    ∃ f fs ts, s = negated position f fs ts := by
  obtain ⟨⟨first, fs⟩, ts⟩ := s
  rw [Sum.tokens, Term.tokens, List.append_assoc] at h
  cases first with
  | primary p => exact absurd h (p.tokens_ne_operator _ _ _ _)
  | negation position' f =>
    rw [Factor.tokens, List.cons_append, List.cons.injEq, Token.mk.injEq] at h
    obtain ⟨⟨-, rfl⟩, -⟩ := h
    exact ⟨f, fs, ts, rfl⟩

/-- A sum that begins with a number and a minus sign subtracts from the number. -/
lemma exists_eq_subtracted {s : Sum} {number : Numeral} {place position : Nat} {rest : List Token}
    (h : s.tokens = ⟨.number number, place⟩ :: ⟨.operator .minus, position⟩ :: rest) :
    ∃ f fs ts, s = subtracted number place position f fs ts := by
  obtain ⟨⟨first, fs⟩, ts⟩ := s
  rw [Sum.tokens, Term.tokens, List.append_assoc] at h
  cases first with
  | negation position' f => cases h
  | primary p =>
    cases p with
    | group opening inner closing => cases h
    | number numeral place' =>
      rw [Factor.tokens, Primary.tokens, List.singleton_append, List.cons.injEq, Token.mk.injEq,
        TokenKind.number.injEq] at h
      obtain ⟨⟨rfl, rfl⟩, hrest⟩ := h
      -- The minus sign goes on with the sum, not with the term.
      cases fs with
      | cons op multiplicative position' f fs =>
        rw [Factors.tokens, List.cons_append, List.cons.injEq, Token.mk.injEq,
          TokenKind.operator.injEq] at hrest
        rw [hrest.1.1] at multiplicative
        cases multiplicative
      | nil =>
        cases ts with
        | nil => cases hrest
        | cons op additive position' t ts =>
          obtain ⟨f, fs⟩ := t
          rw [Factors.tokens, List.nil_append, Terms.tokens, List.cons.injEq, Token.mk.injEq,
            TokenKind.operator.injEq] at hrest
          obtain ⟨⟨rfl, rfl⟩, -⟩ := hrest
          exact ⟨f, fs, ts, rfl⟩

/-- A zero less a term is like the term with its first factor negated. -/
lemma sameValue_negated_subtracted {number : Numeral} (hzero : number.value = .zero false)
    (place position : Nat) (f : Factor) (fs : Factors) (ts : Terms) :
    SameValue (negated position f fs ts).expr.value
      (subtracted number place position f fs ts).expr.value := by
  refine Terms.sameValue_expr ts ?_
  have hnegated : (fs.expr (.negation f.expr)).value =
      (fs.expr f.expr).value.map fun x => -x := Factors.value_expr_neg fs f.expr.value_negation
  have hsubtracted : (Expr.binary .minus position (.literal number.value) (fs.expr f.expr)).value =
      (fs.expr f.expr).value.map fun x => .zero false + -x := by
    simp only [Expr.value, hzero]
    cases (fs.expr f.expr).value <;> rfl
  show SameValue (fs.expr (.negation f.expr)).value
    (Expr.binary .minus position (.literal number.value) (fs.expr f.expr)).value
  rw [hnegated, hsubtracted]
  cases (fs.expr f.expr).value with
  | error fault => exact .faults
  | ok x => exact .values (Double.like_zero_add false (-x)).symm

/-- A stream that begins with a minus sign is read behind a number just when it is read alone. -/
lemma ofStream?_minus_cases {stream : TokenStream} {position : Nat} {rest : List Token}
    (htokens : stream.tokens = ⟨.operator .minus, position⟩ :: rest) (number : Numeral)
    (place : Nat) :
    (∃ f fs ts, Expr.ofStream? stream = .ok (negated position f fs ts).expr ∧
      Expr.ofStream? (.cons ⟨.number number, place⟩ stream) =
        .ok (subtracted number place position f fs ts).expr) ∨
    (∃ e, Expr.ofStream? stream = .error e) ∧
      ∃ e, Expr.ofStream? (.cons ⟨.number number, place⟩ stream) = .error e := by
  have hbehind : ∀ {f fs ts length}, stream.ending = .complete length →
      (negated position f fs ts).tokens = stream.tokens →
      Expr.ofStream? stream = .ok (negated position f fs ts).expr ∧
        Expr.ofStream? (.cons ⟨.number number, place⟩ stream) =
          .ok (subtracted number place position f fs ts).expr := by
    intro f fs ts length hending hs
    have hs' : (subtracted number place position f fs ts).tokens =
        ⟨.number number, place⟩ :: stream.tokens := by rw [tokens_subtracted, hs]
    exact ⟨ofStream?_of_derivation hending hs, ofStream?_of_derivation hending hs'⟩
  -- Either way of reading the stream gives a derivation, from which that of the other one is made.
  cases halone : Expr.ofStream? stream with
  | ok expr =>
    obtain ⟨⟨length, hending⟩, s, hs, -⟩ := exists_derivation_of_ofStream? halone
    obtain ⟨f, fs, ts, rfl⟩ := exists_eq_negated (hs.trans htokens)
    rw [← halone]
    exact Or.inl ⟨f, fs, ts, hbehind hending hs⟩
  | error e =>
    refine Or.inr ⟨⟨e, rfl⟩, ?_⟩
    cases hnumber : Expr.ofStream? (.cons ⟨.number number, place⟩ stream) with
    | error e' => exact ⟨e', rfl⟩
    | ok expr =>
      obtain ⟨⟨length, hending⟩, s, hs, -⟩ := exists_derivation_of_ofStream? hnumber
      have hs' : s.tokens =
          ⟨.number number, place⟩ :: ⟨.operator .minus, position⟩ :: rest := by
        rw [hs, TokenStream.cons, htokens]
      obtain ⟨f, fs, ts, rfl⟩ := exists_eq_subtracted hs'
      rw [tokens_subtracted] at hs
      cases halone.symm.trans (hbehind hending (List.cons.inj hs).2).1

end Grammar

/-! ### Outcomes -/

/-- Two sources that both have values, which are equal, or that both have none. -/
inductive SameOutcome : Except Error Double → Except Error Double → Prop
  | values {x y : Double} (equal : x.equal y = true) : SameOutcome (.ok x) (.ok y)
  | errors {e e' : Error} : SameOutcome (.error e) (.error e')

/-- Numbers that are alike are both in range, and then they are equal. -/
lemma sameOutcome_finite? {x y : Double} (h : x.Like y) :
    SameOutcome (finite? x) (finite? y) := by
  unfold finite?
  rw [← h.isFinite_eq]
  cases hfinite : x.isFinite with
  | true => exact .values (h.equal hfinite)
  | false => exact .errors

namespace TokenStream

/-- Streams of expressions whose values are alike have the same outcome. -/
lemma sameOutcome_of_sameValue {stream stream' : TokenStream} {expr expr' : Expr}
    (h : Expr.ofStream? stream = .ok expr) (h' : Expr.ofStream? stream' = .ok expr')
    (hsame : SameValue expr.value expr'.value) : SameOutcome stream.outcome stream'.outcome := by
  simp only [outcome, h, h', Expr.run_eq_value]
  generalize expr.value = value, expr'.value = value' at hsame ⊢
  cases hsame with
  | faults => exact .errors
  | values like => exact sameOutcome_finite? like

/-- A stream that is not read has no value. -/
lemma outcome_of_error {stream : TokenStream} {e : Error}
    (h : Expr.ofStream? stream = .error e) : stream.outcome = .error e := by
  simp only [outcome, h]

/-- A stream that begins with a minus sign has the same outcome behind a zero. -/
theorem sameOutcome_of_minus {stream : TokenStream} {position : Nat} {rest : List Token}
    (htokens : stream.tokens = ⟨.operator .minus, position⟩ :: rest) {number : Numeral}
    (hzero : number.value = .zero false) (place : Nat) :
    SameOutcome stream.outcome (cons ⟨.number number, place⟩ stream).outcome := by
  rcases Grammar.ofStream?_minus_cases htokens number place with
    ⟨f, fs, ts, halone, hbehind⟩ | ⟨⟨e, halone⟩, e', hbehind⟩
  · exact sameOutcome_of_sameValue halone hbehind
      (Grammar.sameValue_negated_subtracted hzero place position f fs ts)
  · rw [outcome_of_error halone, outcome_of_error hbehind]
    exact .errors

end TokenStream

end Calculator
