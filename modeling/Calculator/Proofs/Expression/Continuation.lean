import Calculator.Proofs.Expression.FirstError

/-!
# Typing ahead

A source that is not read as an expression may lack nothing but its end, or its error may be
settled whatever is typed behind it. `Completable` and `Settled` are these two states of a
source; exactly one of them holds (`completable_or_settled`), and which one can be told from the
error: it is settled unless it is one of those of the end of a source (`IsOfEnd`).

What is typed ahead stands behind a blank, so it changes none of the tokens before
(`TokenStream.ofChars_continued`). A source whose tokens are all allowed is completed by a number,
where an operand is expected, and by closing the parentheses that are open (`Outlook.closing`).
-/

namespace Calculator

/-- Some text behind a blank makes the source an expression. -/
def Completable (source : String) : Prop :=
  ∃ more e, Expr.ofText? (source ++ " " ++ more) = .ok e

/-- The source has an error that stays the same, whatever text is typed behind a blank. -/
def Settled (source : String) : Prop :=
  ∃ e, Expr.ofText? source = .error e ∧ ∀ more, Expr.ofText? (source ++ " " ++ more) = .error e

/-- The errors of the end of a source: there is nothing, an operand is missing at the end, or an
opening parenthesis is unmatched. -/
def IsOfEnd (source : String) (e : Error) : Prop :=
  e.cause = .emptyExpression ∨
    (e.cause = .unexpectedToken ∧ e.position = some source.length) ∨
    (e.cause = .unmatchedParenthesis ∧
      ∃ position : Nat, e.position = some position ∧ source.toList[position]? = some '(')

/-! ### The stream of a continued source -/

/-- What stands behind a blank comes after the tokens of the source, unless these break off. -/
lemma TokenStream.ofChars_continued (source more : String) :
    ofChars (source ++ " " ++ more).toList =
      (ofChars source.toList).append (scan source.toList.length (' ' :: more.toList)) := by
  have happart : Apart source.toList (' ' :: more.toList) := apart_cons _ rfl _
  have htext : (source ++ " " ++ more).toList = source.toList ++ ' ' :: more.toList := by simp
  rw [htext, ofChars, scan_append happart 0, Nat.zero_add]
  rfl

/-! ### Settled errors -/

/-- The cause of a token that is not allowed is that of no empty source. -/
lemma Outlook.refusal_ne_empty (outlook : Outlook) (kind : TokenKind) :
    outlook.refusal kind ≠ .emptyExpression := by
  unfold refusal
  split <;> simp

/-- Among the tokens that are not allowed only closing parentheses are unmatched. -/
lemma Outlook.eq_closing_of_refusal {outlook : Outlook} {kind : TokenKind}
    (h : outlook.refusal kind = .unmatchedParenthesis) : kind = .closing := by
  unfold refusal at h
  split at h <;> first | rfl | cases h

section Refused

variable {source : String} {before after : List Token} {token : Token} {outlook : Outlook}

/-- A token that is not allowed settles the error. -/
lemma settled_of_refused
    (split : (TokenStream.ofChars source.toList).tokens = before ++ token :: after)
    (allowed : Outlook.start.along? before = some outlook) (refused : outlook.next? token = none) :
    Settled source := by
  refine ⟨outlook.error token, FailsWith.ofStream?_eq (.token split allowed refused), ?_⟩
  intro more
  have hsplit : ∃ after',
      (TokenStream.ofChars (source ++ " " ++ more).toList).tokens = before ++ token :: after' := by
    rw [TokenStream.ofChars_continued]
    cases hending : (TokenStream.ofChars source.toList).ending with
    | broken position =>
      rw [TokenStream.append_of_broken hending]
      exact ⟨after, split⟩
    | complete length =>
      rw [TokenStream.append_of_complete hending, split]
      exact ⟨_, List.append_assoc before (token :: after) _⟩
  obtain ⟨after', hsplit⟩ := hsplit
  exact FailsWith.ofStream?_eq (.token hsplit allowed refused)

/-- The error of a token that is not allowed is none of the end. -/
lemma not_isOfEnd_of_refused
    (split : (TokenStream.ofChars source.toList).tokens = before ++ token :: after)
    (outlook : Outlook) : ¬ IsOfEnd source (outlook.error token) := by
  have hmem : token ∈ (TokenStream.ofChars source.toList).tokens := by
    rw [split]
    simp
  obtain ⟨hlt, hat⟩ := TokenStream.getElem?_of_mem_ofChars hmem
  rintro (hempty | ⟨-, hposition⟩ | ⟨hcause, position, hposition, hopening⟩)
  · exact outlook.refusal_ne_empty token.kind hempty
  · have heq : (token.position : Int) = source.length := Option.some.inj hposition
    rw [Int.ofNat_inj.mp heq, String.length_toList] at hlt
    exact Nat.lt_irrefl _ hlt
  · have heq : (token.position : Int) = position := Option.some.inj hposition
    rw [← Int.ofNat_inj.mp heq, hat, Outlook.eq_closing_of_refusal hcause] at hopening
    cases hopening

end Refused

/-- A source that breaks off behind tokens that are allowed has a settled error. -/
lemma settled_of_broken {source : String} {position : Nat} {outlook : Outlook}
    (allowed : Outlook.start.along? (TokenStream.ofChars source.toList).tokens = some outlook)
    (ending : (TokenStream.ofChars source.toList).ending = .broken position) : Settled source := by
  refine ⟨_, FailsWith.ofStream?_eq (.broken allowed ending), ?_⟩
  intro more
  have hstream : TokenStream.ofChars (source ++ " " ++ more).toList =
      TokenStream.ofChars source.toList := by
    rw [TokenStream.ofChars_continued, TokenStream.append_of_broken ending]
  have hallowed := allowed
  have hending := ending
  rw [← hstream] at hallowed hending
  exact FailsWith.ofStream?_eq (.broken hallowed hending)

/-! ### Completions -/

namespace Outlook

/-- A completion of a source: a number where an operand is expected, and a closing parenthesis for
each one that is open. -/
def closing (outlook : Outlook) : List Char :=
  match outlook.demand with
  | .operand => '1' :: List.replicate outlook.opened.length ')'
  | .operator => List.replicate outlook.opened.length ')'

/-- Closing parentheses close what is open. -/
lemma exists_along?_replicate (opened : List Nat) (position : Nat) :
    ∃ tokens, TokenStream.scan position (List.replicate opened.length ')') =
        ⟨tokens, .complete (position + opened.length)⟩ ∧
      along? ⟨.operator, opened⟩ tokens = some ⟨.operator, []⟩ := by
  induction opened generalizing position with
  | nil => exact ⟨[], by rw [List.length_nil, List.replicate_zero, TokenStream.scan]; rfl, rfl⟩
  | cons first opened ih =>
    obtain ⟨tokens, hscan, hclosed⟩ := ih (position + 1)
    refine ⟨⟨.closing, position⟩ :: tokens, ?_, hclosed⟩
    rw [List.length_cons, List.replicate_succ, TokenStream.scan_sign position (by decide) rfl,
      hscan, Nat.add_right_comm]
    rfl

/-- A completion leads to the end of an expression. -/
lemma exists_along?_closing (outlook : Outlook) (position : Nat) :
    ∃ tokens length, TokenStream.scan position outlook.closing = ⟨tokens, .complete length⟩ ∧
      outlook.along? tokens = some ⟨.operator, []⟩ := by
  obtain ⟨demand, opened⟩ := outlook
  cases demand with
  | operator =>
    obtain ⟨tokens, hscan, hclosed⟩ := exists_along?_replicate opened position
    exact ⟨tokens, _, hscan, hclosed⟩
  | operand =>
    obtain ⟨tokens, hscan, hclosed⟩ := exists_along?_replicate opened (position + 1)
    have happart : Apart ['1'] (List.replicate opened.length ')') := by
      cases opened with
      | nil => exact fun _ _ _ b hb => by cases hb
      | cons first opened => exact apart_cons _ (by decide) _
    have hfirst : Numeral.first ('1' :: List.replicate opened.length ')') = .ok ⟨['1'], []⟩ :=
      Numeral.first_append happart
    refine ⟨⟨.number ⟨['1'], []⟩, position⟩ :: tokens, position + 1 + opened.length, ?_, hclosed⟩
    rw [closing, TokenStream.scan_number position (by decide) hfirst rfl]
    exact congrArg (TokenStream.cons _) hscan

/-- A token opens no parenthesis but itself. -/
lemma mem_opened_of_next? {outlook next : Outlook} {token : Token} {position : Nat}
    (h : outlook.next? token = some next) (hmem : position ∈ next.opened) :
    position ∈ outlook.opened ∨ ⟨.opening, position⟩ = token := by
  obtain ⟨demand, opened⟩ := outlook
  obtain ⟨kind, place⟩ := token
  cases demand with
  | operand =>
    cases kind with
    | number numeral =>
      cases h
      exact Or.inl hmem
    | opening =>
      cases h
      rcases List.mem_cons.mp hmem with rfl | hmem
      · exact Or.inr rfl
      · exact Or.inl hmem
    | closing => cases h
    | operator op =>
      cases op <;> cases h
      exact Or.inl hmem
  | operator =>
    cases kind with
    | number numeral => cases h
    | opening => cases h
    | closing =>
      cases opened with
      | nil => cases h
      | cons first opened =>
        cases h
        exact Or.inl (List.mem_cons_of_mem _ hmem)
    | operator op =>
      cases h
      exact Or.inl hmem

/-- A parenthesis that is open was opened by a token. -/
lemma exists_of_mem_opened {outlook last : Outlook} {tokens : List Token} {position : Nat}
    (h : outlook.along? tokens = some last) (hmem : position ∈ last.opened) :
    position ∈ outlook.opened ∨ ⟨.opening, position⟩ ∈ tokens := by
  induction tokens generalizing outlook with
  | nil =>
    cases h
    exact Or.inl hmem
  | cons token tokens ih =>
    obtain ⟨next, hnext, hlast⟩ := Option.bind_eq_some_iff.mp h
    rcases ih hlast with hopened | htokens
    · rcases mem_opened_of_next? hnext hopened with hopened | rfl
      · exact Or.inl hopened
      · exact Or.inr List.mem_cons_self
    · exact Or.inr (List.mem_cons_of_mem _ htokens)

end Outlook

/-- Tokens that are all allowed hold none that is not. -/
lemma not_refused_of_allowed {tokens before after : List Token} {token : Token}
    {last outlook : Outlook} (h : Outlook.start.along? tokens = some last)
    (split : tokens = before ++ token :: after)
    (allowed : Outlook.start.along? before = some outlook)
    (refused : outlook.next? token = none) : False := by
  rw [split, Outlook.along?_append, allowed, Option.bind_some, Outlook.along?_cons, refused] at h
  cases h

/-- A stream of tokens that are allowed and that reach the end of an expression is read. -/
lemma exists_ofStream?_eq_ok (stream : TokenStream) {length : Nat}
    (h : Outlook.start.along? stream.tokens = some ⟨.operator, []⟩)
    (ending : stream.ending = .complete length) : ∃ e, Expr.ofStream? stream = .ok e := by
  cases hread : Expr.ofStream? stream with
  | ok e => exact ⟨e, rfl⟩
  | error e =>
    exfalso
    cases failsWith_of_ofStream? hread with
    | token split allowed refused => exact not_refused_of_allowed h split allowed refused
    | broken allowed broken => rw [ending] at broken; cases broken
    | empty nothing _ => rw [nothing] at h; cases h
    | operand _ allowed _ => rw [h] at allowed; cases allowed
    | unclosed allowed _ => rw [h] at allowed; cases allowed

section Allowed

variable {source : String} {length : Nat} {last : Outlook}

/-- A source whose tokens are all allowed up to its end can be completed. -/
lemma completable_of_allowed
    (allowed : Outlook.start.along? (TokenStream.ofChars source.toList).tokens = some last)
    (ending : (TokenStream.ofChars source.toList).ending = .complete length) :
    Completable source := by
  obtain ⟨tokens, end', hscan, hclosed⟩ :=
    last.exists_along?_closing (source.toList.length + 1)
  have hstream : TokenStream.ofChars (source ++ " " ++ String.ofList last.closing).toList =
      ⟨(TokenStream.ofChars source.toList).tokens ++ tokens, .complete end'⟩ := by
    rw [TokenStream.ofChars_continued, TokenStream.append_of_complete ending,
      TokenStream.scan_spacing _ (by decide), String.toList_ofList, hscan]
  obtain ⟨e, he⟩ := exists_ofStream?_eq_ok (TokenStream.ofChars _)
    (by rw [hstream, Outlook.along?_append, allowed, Option.bind_some, hclosed])
    (by rw [hstream])
  exact ⟨String.ofList last.closing, e, he⟩

/-- An error of a source whose tokens are all allowed up to its end is one of its end. -/
lemma isOfEnd_of_allowed {e : Error}
    (allowed : Outlook.start.along? (TokenStream.ofChars source.toList).tokens = some last)
    (ending : (TokenStream.ofChars source.toList).ending = .complete length)
    (h : Expr.ofText? source = .error e) : IsOfEnd source e := by
  cases failsWith_of_ofStream? h with
  | token split allowed' refused =>
    exact (not_refused_of_allowed allowed split allowed' refused).elim
  | broken _ broken => rw [ending] at broken; cases broken
  | empty _ _ => exact Or.inl rfl
  | operand _ _ complete =>
    refine Or.inr (Or.inl ⟨rfl, ?_⟩)
    rw [TokenStream.length_of_scan complete, Nat.zero_add, String.length_toList]
    rfl
  | @unclosed _ position opened allowed' _ =>
    refine Or.inr (Or.inr ⟨rfl, position, rfl, ?_⟩)
    rcases Outlook.exists_of_mem_opened allowed' (List.mem_cons_self ..) with hstart | htoken
    · cases hstart
    · exact (TokenStream.getElem?_of_mem_ofChars htoken).2

end Allowed

/-- A source that can be completed has no settled error. -/
lemma not_settled_of_completable {source : String} (h : Completable source) : ¬ Settled source := by
  rintro ⟨e, -, hsettled⟩
  obtain ⟨more, expr, hexpr⟩ := h
  rw [hsettled more] at hexpr
  cases hexpr

/-- Either a source can be completed, or its error is settled; and the error is settled exactly if
it is none of the end of the source. -/
theorem completable_or_settled (source : String) :
    (Completable source ∧ ¬ Settled source ∨ ¬ Completable source ∧ Settled source) ∧
      (Settled source ↔ ∃ e, Expr.ofText? source = .error e ∧ ¬ IsOfEnd source e) := by
  rcases Outlook.start.along?_cases (TokenStream.ofChars source.toList).tokens with
    ⟨last, hlast⟩ | ⟨before, token, after, refusing, hsplit, hbefore, hrefused⟩
  · cases hending : (TokenStream.ofChars source.toList).ending with
    | broken position =>
      have hsettled := settled_of_broken hlast hending
      refine ⟨Or.inr ⟨fun h => not_settled_of_completable h hsettled, hsettled⟩,
        iff_of_true hsettled ⟨_, FailsWith.ofStream?_eq (.broken hlast hending), ?_⟩⟩
      rintro (hcause | ⟨hcause, -⟩ | ⟨hcause, -⟩) <;> cases hcause
    | complete length =>
      have hcompletable := completable_of_allowed hlast hending
      have hnot := not_settled_of_completable hcompletable
      refine ⟨Or.inl ⟨hcompletable, hnot⟩, iff_of_false hnot ?_⟩
      rintro ⟨e, he, hend⟩
      exact hend (isOfEnd_of_allowed hlast hending he)
  · have hsettled := settled_of_refused hsplit hbefore hrefused
    exact ⟨Or.inr ⟨fun h => not_settled_of_completable h hsettled, hsettled⟩,
      iff_of_true hsettled ⟨_, FailsWith.ofStream?_eq (.token hsplit hbefore hrefused),
        not_isOfEnd_of_refused hsplit refusing⟩⟩

end Calculator
