import Calculator.Proofs.Expression.Grammar

/-!
# Reading derivations

Token by token, a reader puts together the expression of a derivation, and it accepts nothing but
the tokens of derivations.

In one direction, `Sum.steps_tokens` follows the reader through the tokens of a derivation. In
the other, `Reader.Spells` says of a reader which tokens it has taken: those of a derivation that
is broken off, with the enclosing groups first, then the sum, the term and the minus signs of the
innermost group. A step keeps it (`Reader.Spells.step`), and at the end the broken derivation is
whole.
-/

namespace Calculator

namespace Grammar

/-! ### Following a derivation -/

/-- Taking a token that is allowed, and then further tokens. -/
lemma steps_cons {reader next : Reader} {token : Token} (h : reader.step token = .ok next)
    (tokens : List Token) : reader.steps (token :: tokens) = next.steps tokens := by
  simp only [Reader.steps, h]

/-- Taking tokens that are allowed, and then further tokens. -/
lemma steps_append_of_ok {reader next : Reader} {tokens : List Token}
    (h : reader.steps tokens = .ok next) (tokens' : List Token) :
    reader.steps (tokens ++ tokens') = next.steps tokens' := by
  rw [Reader.steps_append, h]
  rfl

mutual

/-- The tokens of a sum leave its expression in a group that was empty. -/
lemma Sum.steps_tokens (s : Sum) (outer : List Enclosing) :
    ∃ sum term, (Reader.expecting .empty outer).steps s.tokens = .ok (.after sum term outer) ∧
      Pending.close sum term = s.expr := by
  match s with
  | .chain first terms =>
    obtain ⟨sum, term, hsteps, hclose⟩ := Terms.steps_tokens terms none first.expr outer
    refine ⟨sum, term, ?_, hclose⟩
    rw [Sum.tokens, Group.empty, steps_append_of_ok (Term.steps_tokens first none outer), hsteps]

/-- The tokens of further terms go on with the sum of a group. -/
lemma Terms.steps_tokens (ts : Terms) (sum : Option Pending) (term : Expr)
    (outer : List Enclosing) :
    ∃ sum' term', (Reader.after sum term outer).steps ts.tokens = .ok (.after sum' term' outer) ∧
      Pending.close sum' term' = ts.expr (Pending.close sum term) := by
  match ts with
  | .nil => exact ⟨sum, term, rfl, rfl⟩
  | .cons op additive position next terms =>
    have hop : (Reader.after sum term outer).step ⟨.operator op, position⟩ =
        .ok (.expecting ⟨some ⟨Pending.close sum term, op, position⟩, none, 0⟩ outer) := by
      simp only [Reader.step, additive, if_true]
    obtain ⟨sum', term', hsteps, hclose⟩ := Terms.steps_tokens terms
      (some ⟨Pending.close sum term, op, position⟩) next.expr outer
    refine ⟨sum', term', ?_, hclose⟩
    rw [Terms.tokens, steps_cons hop, steps_append_of_ok (Term.steps_tokens next _ outer), hsteps]

/-- The tokens of a term leave its expression behind the sum of a group. -/
lemma Term.steps_tokens (t : Term) (sum : Option Pending) (outer : List Enclosing) :
    (Reader.expecting ⟨sum, none, 0⟩ outer).steps t.tokens = .ok (.after sum t.expr outer) := by
  match t with
  | .chain first factors =>
    rw [Term.tokens, steps_append_of_ok (Factor.steps_tokens first ⟨sum, none, 0⟩ outer)]
    exact Factors.steps_tokens factors sum first.expr outer

/-- The tokens of further factors go on with the term of a group. -/
lemma Factors.steps_tokens (fs : Factors) (sum : Option Pending) (term : Expr)
    (outer : List Enclosing) :
    (Reader.after sum term outer).steps fs.tokens = .ok (.after sum (fs.expr term) outer) := by
  match fs with
  | .nil => rfl
  | .cons op multiplicative position next factors =>
    have hop : (Reader.after sum term outer).step ⟨.operator op, position⟩ =
        .ok (.expecting ⟨sum, some ⟨term, op, position⟩, 0⟩ outer) := by
      simp only [Reader.step, multiplicative, Bool.false_eq_true, if_false]
    rw [Factors.tokens, steps_cons hop, steps_append_of_ok (Factor.steps_tokens next _ outer)]
    exact Factors.steps_tokens factors sum _ outer

/-- The tokens of a factor are the operand that a group expects. -/
lemma Factor.steps_tokens (f : Factor) (group : Group) (outer : List Enclosing) :
    (Reader.expecting group outer).steps f.tokens = .ok (.complete group outer f.expr) := by
  match f with
  | .negation position operand =>
    rw [Factor.tokens, steps_cons rfl]
    exact Factor.steps_tokens operand { group with negations := group.negations + 1 } outer
  | .primary operand => exact Primary.steps_tokens operand group outer

/-- The tokens of a primary are the operand that a group expects. -/
lemma Primary.steps_tokens (p : Primary) (group : Group) (outer : List Enclosing) :
    (Reader.expecting group outer).steps p.tokens = .ok (.complete group outer p.expr) := by
  match p with
  | .number numeral position => rfl
  | .group opening s closing =>
    obtain ⟨sum, term, hsteps, hclose⟩ := Sum.steps_tokens s (⟨opening, group⟩ :: outer)
    rw [Primary.tokens, steps_cons rfl, steps_append_of_ok hsteps, steps_cons rfl, hclose]
    rfl

end

/-! ### Prolonging a derivation -/

/-- Further factors with one more at the end. -/
def Factors.snoc (op : Operator) (multiplicative : op.isAdditive = false) (position : Nat)
    (factor : Factor) : Factors → Factors
  | .nil => .cons op multiplicative position factor .nil
  | .cons op' multiplicative' position' factor' rest =>
    .cons op' multiplicative' position' factor' (rest.snoc op multiplicative position factor)

/-- Further terms with one more at the end. -/
def Terms.snoc (op : Operator) (additive : op.isAdditive = true) (position : Nat) (term : Term) :
    Terms → Terms
  | .nil => .cons op additive position term .nil
  | .cons op' additive' position' term' rest =>
    .cons op' additive' position' term' (rest.snoc op additive position term)

/-- One more factor comes last among the tokens. -/
lemma Factors.tokens_snoc (op : Operator) (multiplicative : op.isAdditive = false) (position : Nat)
    (factor : Factor) (fs : Factors) :
    (fs.snoc op multiplicative position factor).tokens =
      fs.tokens ++ ⟨.operator op, position⟩ :: factor.tokens := by
  match fs with
  | .nil => simp [Factors.snoc, Factors.tokens]
  | .cons op' multiplicative' position' factor' rest =>
    have ih := Factors.tokens_snoc op multiplicative position factor rest
    simp [Factors.snoc, Factors.tokens, ih]

/-- One more factor is the right operand of the last operation. -/
lemma Factors.expr_snoc (op : Operator) (multiplicative : op.isAdditive = false) (position : Nat)
    (factor : Factor) (fs : Factors) (left : Expr) :
    (fs.snoc op multiplicative position factor).expr left =
      .binary op position (fs.expr left) factor.expr := by
  match fs with
  | .nil => rfl
  | .cons op' multiplicative' position' factor' rest =>
    exact Factors.expr_snoc op multiplicative position factor rest _

/-- One more term comes last among the tokens. -/
lemma Terms.tokens_snoc (op : Operator) (additive : op.isAdditive = true) (position : Nat)
    (term : Term) (ts : Terms) :
    (ts.snoc op additive position term).tokens =
      ts.tokens ++ ⟨.operator op, position⟩ :: term.tokens := by
  match ts with
  | .nil => simp [Terms.snoc, Terms.tokens]
  | .cons op' additive' position' term' rest =>
    have ih := Terms.tokens_snoc op additive position term rest
    simp [Terms.snoc, Terms.tokens, ih]

/-- One more term is the right operand of the last operation. -/
lemma Terms.expr_snoc (op : Operator) (additive : op.isAdditive = true) (position : Nat)
    (term : Term) (ts : Terms) (left : Expr) :
    (ts.snoc op additive position term).expr left =
      .binary op position (ts.expr left) term.expr := by
  match ts with
  | .nil => rfl
  | .cons op' additive' position' term' rest =>
    exact Terms.expr_snoc op additive position term rest _

/-! ### The tokens of a reader -/

/-- The tokens of a sum that waits for its next term. -/
inductive SpellsSum : Option Pending → List Token → Prop where
  | nothing : SpellsSum none []
  | waiting (s : Sum) {op : Operator} (additive : op.isAdditive = true) (position : Nat) :
      SpellsSum (some ⟨s.expr, op, position⟩) (s.tokens ++ [⟨.operator op, position⟩])

/-- The tokens of a term that waits for its next factor. -/
inductive SpellsTerm : Option Pending → List Token → Prop where
  | nothing : SpellsTerm none []
  | waiting (t : Term) {op : Operator} (multiplicative : op.isAdditive = false) (position : Nat) :
      SpellsTerm (some ⟨t.expr, op, position⟩) (t.tokens ++ [⟨.operator op, position⟩])

/-- A number of minus signs. -/
inductive SpellsSigns : Nat → List Token → Prop where
  | nothing : SpellsSigns 0 []
  | snoc {n : Nat} {tokens : List Token} (signs : SpellsSigns n tokens) (position : Nat) :
      SpellsSigns (n + 1) (tokens ++ [⟨.operator .minus, position⟩])

/-- The tokens of a group in which an operand is expected. -/
inductive SpellsGroup : Group → List Token → Prop where
  | parts {sum term : Option Pending} {n : Nat} {xs ys zs : List Token} (hsum : SpellsSum sum xs)
      (hterm : SpellsTerm term ys) (hsigns : SpellsSigns n zs) :
      SpellsGroup ⟨sum, term, n⟩ (xs ++ ys ++ zs)

/-- The tokens of enclosing groups, with the parenthesis that opened behind each of them. -/
inductive SpellsOuter : List Enclosing → List Token → Prop where
  | nothing : SpellsOuter [] []
  | within {group : Group} {outer : List Enclosing} {xs ys : List Token}
      (houter : SpellsOuter outer xs) (hgroup : SpellsGroup group ys) (position : Nat) :
      SpellsOuter (⟨position, group⟩ :: outer) (xs ++ ys ++ [⟨.opening, position⟩])

/-- The tokens that a reader has taken. -/
inductive Spells : Reader → List Token → Prop where
  | expecting {group : Group} {outer : List Enclosing} {xs ys : List Token}
      (houter : SpellsOuter outer xs) (hgroup : SpellsGroup group ys) :
      Spells (.expecting group outer) (xs ++ ys)
  | after {sum : Option Pending} {outer : List Enclosing} {xs ys : List Token}
      (houter : SpellsOuter outer xs) (hsum : SpellsSum sum ys) (t : Term) :
      Spells (.after sum t.expr outer) (xs ++ ys ++ t.tokens)

/-- Nothing is taken of an empty group. -/
lemma spellsGroup_empty : SpellsGroup .empty [] :=
  .parts .nothing .nothing .nothing

/-- Nothing is taken at the start. -/
lemma spells_start : Spells .start [] :=
  .expecting .nothing spellsGroup_empty

/-- Minus signs and the factor behind them are a factor. -/
lemma SpellsSigns.exists_factor {n : Nat} {zs : List Token} (h : SpellsSigns n zs) (f : Factor) :
    ∃ f' : Factor, f'.expr = Expr.negated n f.expr ∧ f'.tokens = zs ++ f.tokens := by
  induction h generalizing f with
  | nothing => exact ⟨f, rfl, rfl⟩
  | snoc signs position ih =>
    -- The sign read last is the innermost one.
    obtain ⟨f', hexpr, htokens⟩ := ih (.negation position f)
    refine ⟨f', hexpr, ?_⟩
    rw [htokens, Factor.tokens, List.append_assoc, List.singleton_append]

/-- A waiting term and the factor behind it are a term. -/
lemma SpellsTerm.exists_term {term : Option Pending} {ys : List Token} (h : SpellsTerm term ys)
    (f : Factor) :
    ∃ t : Term, t.expr = Pending.close term f.expr ∧ t.tokens = ys ++ f.tokens := by
  cases h with
  | nothing => exact ⟨.chain f .nil, rfl, by simp [Term.tokens, Factors.tokens]⟩
  | @waiting t op multiplicative position =>
    obtain ⟨first, rest⟩ := t
    refine ⟨.chain first (rest.snoc op multiplicative position f), ?_, ?_⟩
    · exact Factors.expr_snoc op multiplicative position f rest first.expr
    · simp [Term.tokens, Factors.tokens_snoc]

/-- A waiting sum and the term behind it are a sum. -/
lemma SpellsSum.exists_sum {sum : Option Pending} {xs : List Token} (h : SpellsSum sum xs)
    (t : Term) :
    ∃ s : Sum, s.expr = Pending.close sum t.expr ∧ s.tokens = xs ++ t.tokens := by
  cases h with
  | nothing => exact ⟨.chain t .nil, rfl, by simp [Sum.tokens, Terms.tokens]⟩
  | @waiting s op additive position =>
    obtain ⟨first, rest⟩ := s
    refine ⟨.chain first (rest.snoc op additive position t), ?_, ?_⟩
    · exact Terms.expr_snoc op additive position t rest first.expr
    · simp [Sum.tokens, Terms.tokens_snoc]

/-- The operand that a group expects is read. -/
lemma Spells.complete {group : Group} {outer : List Enclosing} {xs ys : List Token}
    (houter : SpellsOuter outer xs) (hgroup : SpellsGroup group ys) (p : Primary) :
    Spells (.complete group outer p.expr) (xs ++ ys ++ p.tokens) := by
  obtain ⟨hsum, hterm, hsigns⟩ := hgroup
  obtain ⟨f, hf, hftokens⟩ := hsigns.exists_factor (.primary p)
  obtain ⟨t, ht, httokens⟩ := hterm.exists_term f
  have h := Spells.after houter hsum t
  rw [ht, hf, httokens, hftokens, Factor.tokens, Factor.expr] at h
  simpa [Reader.complete, Group.operand] using h

/-- A token that is allowed is taken. -/
lemma Spells.step {reader next : Reader} {tokens : List Token} {token : Token}
    (h : Spells reader tokens) (hstep : reader.step token = .ok next) :
    Spells next (tokens ++ [token]) := by
  obtain ⟨kind, position⟩ := token
  cases h with
  | @expecting group outer xs ys houter hgroup =>
    cases kind with
    | number numeral =>
      cases hstep
      exact Spells.complete houter hgroup (.number numeral position)
    | opening =>
      cases hstep
      simpa using Spells.expecting (houter.within hgroup position) spellsGroup_empty
    | closing =>
      cases outer <;> cases hstep
    | operator op =>
      cases op with
      | minus =>
        cases hstep
        obtain ⟨hsum, hterm, hsigns⟩ := hgroup
        simpa using Spells.expecting houter (.parts hsum hterm (hsigns.snoc position))
      | _ => cases hstep
  | @after sum outer xs ys houter hsum t =>
    cases kind with
    | number numeral => cases outer <;> cases hstep
    | opening => cases outer <;> cases hstep
    | closing =>
      cases houter with
      | nothing => cases hstep
      | @within group outer xs' ys' houter hgroup opening =>
        cases hstep
        obtain ⟨s, hs, hstokens⟩ := hsum.exists_sum t
        have hgroup := Spells.complete houter hgroup (.group opening s position)
        rw [Primary.expr, Primary.tokens, hs, hstokens] at hgroup
        simpa using hgroup
    | operator op =>
      cases hadditive : op.isAdditive with
      | true =>
        simp only [Reader.step, hadditive, if_true, Except.ok.injEq] at hstep
        obtain ⟨s, hs, hstokens⟩ := hsum.exists_sum t
        subst hstep
        have hgroup : SpellsGroup ⟨some ⟨s.expr, op, position⟩, none, 0⟩ _ :=
          .parts (.waiting s hadditive position) .nothing .nothing
        rw [hs, hstokens] at hgroup
        simpa using Spells.expecting houter hgroup
      | false =>
        simp only [Reader.step, hadditive, Bool.false_eq_true, if_false, Except.ok.injEq] at hstep
        subst hstep
        simpa using Spells.expecting houter (.parts hsum (.waiting t hadditive position) .nothing)

/-- Tokens that are allowed are taken. -/
lemma Spells.steps {reader last : Reader} {taken tokens : List Token} (h : Spells reader taken)
    (hsteps : reader.steps tokens = .ok last) : Spells last (taken ++ tokens) := by
  induction tokens generalizing reader taken with
  | nil =>
    cases hsteps
    simpa using h
  | cons token tokens ih =>
    simp only [Reader.steps] at hsteps
    cases hstep : reader.step token with
    | ok next =>
      rw [hstep] at hsteps
      simpa using ih (h.step hstep) hsteps
    | error e =>
      rw [hstep] at hsteps
      cases hsteps

/-- A reader that may end has taken the tokens of a sum, and gives its expression. -/
lemma Spells.exists_sum {reader : Reader} {tokens : List Token} {length : Nat} {e : Expr}
    (h : Spells reader tokens) (hfinish : reader.finish length = .ok e) :
    ∃ s : Sum, s.tokens = tokens ∧ s.expr = e := by
  cases h with
  | expecting houter hgroup => cases hfinish
  | after houter hsum t =>
    cases houter with
    | nothing =>
      cases hfinish
      obtain ⟨s, hs, hstokens⟩ := hsum.exists_sum t
      exact ⟨s, by simpa using hstokens, hs⟩
    | within houter hgroup position => cases hfinish

/-! ### Whole sources -/

/-- A sum begins with a token. -/
lemma Sum.tokens_ne_nil (s : Sum) : s.tokens ≠ [] := by
  obtain ⟨⟨first, factors⟩, terms⟩ := s
  have hfirst : first.tokens ≠ [] := by
    match first with
    | .negation position operand => simp [Factor.tokens]
    | .primary (.number numeral position) => simp [Factor.tokens, Primary.tokens]
    | .primary (.group opening inner closing) => simp [Factor.tokens, Primary.tokens]
  simp [Sum.tokens, Term.tokens, hfirst]

/-- A stream whose tokens derive a sum is read as the expression of that sum. -/
lemma ofStream?_of_derivation {stream : TokenStream} {length : Nat} {s : Sum}
    (hending : stream.ending = .complete length) (htokens : s.tokens = stream.tokens) :
    Expr.ofStream? stream = .ok s.expr := by
  obtain ⟨sum, term, hsteps, hclose⟩ := Sum.steps_tokens s []
  have hsteps' : Reader.start.steps stream.tokens = .ok (.after sum term []) := htokens ▸ hsteps
  have hne : stream.tokens ≠ [] := htokens ▸ s.tokens_ne_nil
  simp only [Expr.ofStream?, hsteps', hending, hne, if_false, Reader.finish, hclose]

/-- A stream that is read as an expression ends with its source, and its tokens derive a sum of that
expression. -/
lemma exists_derivation_of_ofStream? {stream : TokenStream} {e : Expr}
    (h : Expr.ofStream? stream = .ok e) :
    (∃ length, stream.ending = .complete length) ∧
      ∃ s : Sum, s.tokens = stream.tokens ∧ s.expr = e := by
  unfold Expr.ofStream? at h
  cases hsteps : Reader.start.steps stream.tokens with
  | error failure =>
    rw [hsteps] at h
    cases h
  | ok reader =>
    rw [hsteps] at h
    cases hending : stream.ending with
    | broken position =>
      simp only [hending] at h
      cases h
    | complete length =>
      simp only [hending] at h
      split at h
      · cases h
      · exact ⟨⟨length, rfl⟩, (spells_start.steps hsteps).exists_sum h⟩

/-- A source is read as an expression exactly when its tokens go on to its end and derive a sum, and
the expression is the one that this derivation denotes; there is only one such derivation. -/
theorem reads_iff_derives (source : String) :
    (∀ e, Expr.ofText? source = .ok e ↔
      (∃ length, (TokenStream.ofChars source.toList).ending = .complete length) ∧
        ∃ s : Sum, s.tokens = (TokenStream.ofChars source.toList).tokens ∧ s.expr = e) ∧
    ∀ s s' : Sum, s.tokens = (TokenStream.ofChars source.toList).tokens →
      s'.tokens = (TokenStream.ofChars source.toList).tokens → s = s' := by
  refine ⟨fun e => ⟨exists_derivation_of_ofStream?, ?_⟩, fun s s' hs hs' => ?_⟩
  · rintro ⟨⟨length, hending⟩, s, htokens, rfl⟩
    exact ofStream?_of_derivation hending htokens
  · exact Sum.eq_of_tokens_eq (hs.trans hs'.symm)

end Grammar

end Calculator
