import Calculator.Expression.Groups
import Mathlib.Tactic.Lemma

/-!
# The grammar of expressions

A sum is a term followed by any number of further terms behind `+` or `-`; a term is a factor
followed by any number of further factors behind `*`, `/` or `%`; a factor is a minus sign in
front of a factor, or a primary; and a primary is a number or a sum in parentheses.

The derivations of this grammar are trees whose leaves are tokens. `Sum.tokens` lists the leaves
of a derivation from left to right and `Sum.expr` is the expression that it denotes: chains of
terms and of factors are folded to the left, and parentheses leave no node. The grammar is
unambiguous (`Sum.eq_of_tokens_eq`): the leaves determine the derivation.
-/

namespace Calculator

/-! ### Kinds of tokens -/

/-- Whether a token is an operator. -/
def TokenKind.isOperator : TokenKind → Bool
  | .operator _ => true
  | _ => false

/-- Whether a token is an operator between factors. -/
def TokenKind.isMultiplicative : TokenKind → Bool
  | .operator op => !op.isAdditive
  | _ => false

namespace Grammar

/-! ### Derivations -/

mutual

/-- A derivation of a sum. -/
inductive Sum where
  | chain (first : Term) (rest : Terms)

/-- A derivation of the further terms of a sum, each behind its operator. -/
inductive Terms where
  | nil
  | cons (op : Operator) (additive : op.isAdditive = true) (position : Nat) (term : Term)
      (rest : Terms)

/-- A derivation of a term. -/
inductive Term where
  | chain (first : Factor) (rest : Factors)

/-- A derivation of the further factors of a term, each behind its operator. -/
inductive Factors where
  | nil
  | cons (op : Operator) (multiplicative : op.isAdditive = false) (position : Nat) (factor : Factor)
      (rest : Factors)

/-- A derivation of a factor. -/
inductive Factor where
  | negation (position : Nat) (operand : Factor)
  | primary (operand : Primary)

/-- A derivation of a primary. -/
inductive Primary where
  | number (numeral : Numeral) (position : Nat)
  | group (opening : Nat) (sum : Sum) (closing : Nat)

end

/-! ### Leaves -/

mutual

/-- The tokens of a sum. -/
def Sum.tokens : Sum → List Token
  | .chain first rest => first.tokens ++ rest.tokens

/-- The tokens of further terms. -/
def Terms.tokens : Terms → List Token
  | .nil => []
  | .cons op _ position term rest => ⟨.operator op, position⟩ :: (term.tokens ++ rest.tokens)

/-- The tokens of a term. -/
def Term.tokens : Term → List Token
  | .chain first rest => first.tokens ++ rest.tokens

/-- The tokens of further factors. -/
def Factors.tokens : Factors → List Token
  | .nil => []
  | .cons op _ position factor rest => ⟨.operator op, position⟩ :: (factor.tokens ++ rest.tokens)

/-- The tokens of a factor. -/
def Factor.tokens : Factor → List Token
  | .negation position operand => ⟨.operator .minus, position⟩ :: operand.tokens
  | .primary operand => operand.tokens

/-- The tokens of a primary. -/
def Primary.tokens : Primary → List Token
  | .number numeral position => [⟨.number numeral, position⟩]
  | .group opening sum closing => ⟨.opening, opening⟩ :: (sum.tokens ++ [⟨.closing, closing⟩])

end

/-! ### Meaning -/

mutual

/-- The expression that a sum denotes. -/
def Sum.expr : Sum → Expr
  | .chain first rest => rest.expr first.expr

/-- The expression of a sum whose terms up to here denote `left`. -/
def Terms.expr (left : Expr) : Terms → Expr
  | .nil => left
  | .cons op _ position term rest => rest.expr (.binary op position left term.expr)

/-- The expression that a term denotes. -/
def Term.expr : Term → Expr
  | .chain first rest => rest.expr first.expr

/-- The expression of a term whose factors up to here denote `left`. -/
def Factors.expr (left : Expr) : Factors → Expr
  | .nil => left
  | .cons op _ position factor rest => rest.expr (.binary op position left factor.expr)

/-- The expression that a factor denotes. -/
def Factor.expr : Factor → Expr
  | .negation _ operand => .negation operand.expr
  | .primary operand => operand.expr

/-- The expression that a primary denotes. -/
def Primary.expr : Primary → Expr
  | .number numeral _ => .literal numeral.value
  | .group _ sum _ => sum.expr

end

/-! ### Unambiguity -/

/-- No token of the kind comes first. -/
def StopsBefore (kind : TokenKind → Bool) (tokens : List Token) : Prop :=
  ∀ token ∈ tokens.head?, kind token.kind = false

/-- Nothing comes first where nothing is left. -/
lemma stopsBefore_nil (kind : TokenKind → Bool) : StopsBefore kind [] := by
  intro token h
  cases h

/-- The first token decides. -/
lemma stopsBefore_cons {kind : TokenKind → Bool} {token : Token} {tokens : List Token} :
    StopsBefore kind (token :: tokens) ↔ kind token.kind = false := by
  simp [StopsBefore]

/-- An operator between factors is an operator. -/
lemma StopsBefore.multiplicative {tokens : List Token}
    (h : StopsBefore TokenKind.isOperator tokens) :
    StopsBefore TokenKind.isMultiplicative tokens := by
  intro token htoken
  have hkind := h token htoken
  cases hk : token.kind <;> simp_all [TokenKind.isOperator, TokenKind.isMultiplicative]

/-- Behind a term there may be further terms, but no operator between factors. -/
lemma Terms.stopsBefore_tokens (terms : Terms) {rest : List Token}
    (h : StopsBefore TokenKind.isOperator rest) :
    StopsBefore TokenKind.isMultiplicative (terms.tokens ++ rest) := by
  cases terms with
  | nil => exact h.multiplicative
  | cons op additive position term terms =>
    simp [Terms.tokens, stopsBefore_cons, TokenKind.isMultiplicative, additive]

-- Behind a factor anything may follow; behind a term and behind a sum the next token must not be
-- an operator that would go on with the chain.
mutual

/-- A sum is determined by tokens that begin with it, if no operator follows. -/
lemma Sum.eq_of_append_eq (s s' : Sum) {rest rest' : List Token}
    (h : StopsBefore TokenKind.isOperator rest) (h' : StopsBefore TokenKind.isOperator rest')
    (heq : s.tokens ++ rest = s'.tokens ++ rest') : s = s' ∧ rest = rest' := by
  match s, s' with
  | .chain first terms, .chain first' terms' =>
    simp only [Sum.tokens, List.append_assoc] at heq
    obtain ⟨rfl, hterms⟩ := Term.eq_of_append_eq first first'
      (terms.stopsBefore_tokens h) (terms'.stopsBefore_tokens h') heq
    obtain ⟨rfl, hrest⟩ := Terms.eq_of_append_eq terms terms' h h' hterms
    exact ⟨rfl, hrest⟩

/-- The further terms of a sum are determined by tokens that begin with them, if no operator
follows. -/
lemma Terms.eq_of_append_eq (ts ts' : Terms) {rest rest' : List Token}
    (h : StopsBefore TokenKind.isOperator rest) (h' : StopsBefore TokenKind.isOperator rest')
    (heq : ts.tokens ++ rest = ts'.tokens ++ rest') : ts = ts' ∧ rest = rest' := by
  match ts, ts' with
  | .nil, .nil => exact ⟨rfl, heq⟩
  | .nil, .cons op' _ position' term' terms' =>
    have hrest : rest = _ := heq
    rw [hrest, Terms.tokens, List.cons_append, stopsBefore_cons] at h
    cases h
  | .cons op _ position term terms, .nil =>
    have hrest : _ = rest' := heq
    rw [← hrest, Terms.tokens, List.cons_append, stopsBefore_cons] at h'
    cases h'
  | .cons op _ position term terms, .cons op' _ position' term' terms' =>
    simp only [Terms.tokens, List.cons_append, List.append_assoc, List.cons.injEq,
      Token.mk.injEq, TokenKind.operator.injEq] at heq
    obtain ⟨⟨rfl, rfl⟩, heq⟩ := heq
    obtain ⟨rfl, hterms⟩ := Term.eq_of_append_eq term term'
      (terms.stopsBefore_tokens h) (terms'.stopsBefore_tokens h') heq
    obtain ⟨rfl, hrest⟩ := Terms.eq_of_append_eq terms terms' h h' hterms
    exact ⟨rfl, hrest⟩

/-- A term is determined by tokens that begin with it, if no operator between factors follows. -/
lemma Term.eq_of_append_eq (t t' : Term) {rest rest' : List Token}
    (h : StopsBefore TokenKind.isMultiplicative rest)
    (h' : StopsBefore TokenKind.isMultiplicative rest')
    (heq : t.tokens ++ rest = t'.tokens ++ rest') : t = t' ∧ rest = rest' := by
  match t, t' with
  | .chain first factors, .chain first' factors' =>
    simp only [Term.tokens, List.append_assoc] at heq
    obtain ⟨rfl, hfactors⟩ := Factor.eq_of_append_eq first first' heq
    obtain ⟨rfl, hrest⟩ := Factors.eq_of_append_eq factors factors' h h' hfactors
    exact ⟨rfl, hrest⟩

/-- The further factors of a term are determined by tokens that begin with them, if no operator
between factors follows. -/
lemma Factors.eq_of_append_eq (fs fs' : Factors) {rest rest' : List Token}
    (h : StopsBefore TokenKind.isMultiplicative rest)
    (h' : StopsBefore TokenKind.isMultiplicative rest')
    (heq : fs.tokens ++ rest = fs'.tokens ++ rest') : fs = fs' ∧ rest = rest' := by
  match fs, fs' with
  | .nil, .nil => exact ⟨rfl, heq⟩
  | .nil, .cons op' multiplicative' position' factor' factors' =>
    have hrest : rest = _ := heq
    rw [hrest, Factors.tokens, List.cons_append, stopsBefore_cons] at h
    simp [TokenKind.isMultiplicative, multiplicative'] at h
  | .cons op multiplicative position factor factors, .nil =>
    have hrest : _ = rest' := heq
    rw [← hrest, Factors.tokens, List.cons_append, stopsBefore_cons] at h'
    simp [TokenKind.isMultiplicative, multiplicative] at h'
  | .cons op _ position factor factors, .cons op' _ position' factor' factors' =>
    simp only [Factors.tokens, List.cons_append, List.append_assoc, List.cons.injEq,
      Token.mk.injEq, TokenKind.operator.injEq] at heq
    obtain ⟨⟨rfl, rfl⟩, heq⟩ := heq
    obtain ⟨rfl, hfactors⟩ := Factor.eq_of_append_eq factor factor' heq
    obtain ⟨rfl, hrest⟩ := Factors.eq_of_append_eq factors factors' h h' hfactors
    exact ⟨rfl, hrest⟩

/-- A factor is determined by tokens that begin with it. -/
lemma Factor.eq_of_append_eq (f f' : Factor) {rest rest' : List Token}
    (heq : f.tokens ++ rest = f'.tokens ++ rest') : f = f' ∧ rest = rest' := by
  match f, f' with
  | .negation position operand, .negation position' operand' =>
    simp only [Factor.tokens, List.cons_append, List.cons.injEq, Token.mk.injEq, true_and] at heq
    obtain ⟨rfl, heq⟩ := heq
    obtain ⟨rfl, hrest⟩ := Factor.eq_of_append_eq operand operand' heq
    exact ⟨rfl, hrest⟩
  | .negation position operand, .primary primary' =>
    cases primary' <;> simp [Factor.tokens, Primary.tokens] at heq
  | .primary primary, .negation position' operand' =>
    cases primary <;> simp [Factor.tokens, Primary.tokens] at heq
  | .primary primary, .primary primary' =>
    obtain ⟨rfl, hrest⟩ := Primary.eq_of_append_eq primary primary' heq
    exact ⟨rfl, hrest⟩

/-- A primary is determined by tokens that begin with it. -/
lemma Primary.eq_of_append_eq (p p' : Primary) {rest rest' : List Token}
    (heq : p.tokens ++ rest = p'.tokens ++ rest') : p = p' ∧ rest = rest' := by
  match p, p' with
  | .number numeral position, .number numeral' position' =>
    simp only [Primary.tokens, List.cons_append, List.nil_append, List.cons.injEq, Token.mk.injEq,
      TokenKind.number.injEq] at heq
    obtain ⟨⟨rfl, rfl⟩, hrest⟩ := heq
    exact ⟨rfl, hrest⟩
  | .number numeral position, .group opening' sum' closing' =>
    simp [Primary.tokens] at heq
  | .group opening sum closing, .number numeral' position' =>
    simp [Primary.tokens] at heq
  | .group opening sum closing, .group opening' sum' closing' =>
    simp only [Primary.tokens, List.cons_append, List.append_assoc, List.nil_append,
      List.cons.injEq, Token.mk.injEq, true_and] at heq
    obtain ⟨rfl, heq⟩ := heq
    -- The closing parenthesis is no operator, so the sum inside ends in front of it.
    obtain ⟨rfl, hclosing⟩ := Sum.eq_of_append_eq sum sum'
      (stopsBefore_cons.mpr rfl) (stopsBefore_cons.mpr rfl) heq
    simp only [List.cons.injEq, Token.mk.injEq, true_and] at hclosing
    obtain ⟨rfl, hrest⟩ := hclosing
    exact ⟨rfl, hrest⟩

end

/-- The tokens of a sum determine its derivation. -/
theorem Sum.eq_of_tokens_eq {s s' : Sum} (h : s.tokens = s'.tokens) : s = s' := by
  have heq : s.tokens ++ [] = s'.tokens ++ [] := by rw [h]
  exact (Sum.eq_of_append_eq s s' (stopsBefore_nil _) (stopsBefore_nil _) heq).1

end Grammar

end Calculator
