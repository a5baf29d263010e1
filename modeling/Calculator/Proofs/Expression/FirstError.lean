import Calculator.Proofs.Expression.Scanning
import Calculator.Expression.Groups

/-!
# The first error of a source

Reading from the left, an operand is expected at first and behind a minus sign, an operator or an
opening parenthesis; behind a number or a closing parenthesis an operator is expected. An `Outlook`
is that expectation with the positions of the parentheses that are open, and `Outlook.next?` says
which tokens it allows.

The first token that is not allowed decides the error (`FailsWith.token`), and what stands behind
it does not matter. If all tokens are allowed, the end of the stream decides: the character at
which it breaks off, or the end of the source. The groups that a reader keeps are forgotten by
`Reader.outlook`, and one step of the reader is one step of the outlook (`Reader.outlook_step`).
-/

namespace Calculator

/-! ### What may come next -/

/-- What is expected of the next token. -/
inductive Demand where
  | operand
  | operator
deriving DecidableEq, Repr

/-- What is expected of the next token, and the positions of the parentheses that are open, from the
innermost on. -/
structure Outlook where
  demand : Demand
  opened : List Nat
deriving DecidableEq, Repr

namespace Outlook

/-- At the start an operand is expected, and no parenthesis is open. -/
def start : Outlook := ⟨.operand, []⟩

/-- The outlook behind a token that is allowed. -/
def next? : Outlook → Token → Option Outlook
  | ⟨.operand, opened⟩, ⟨kind, position⟩ =>
    match kind with
    | .number _ => some ⟨.operator, opened⟩
    | .opening => some ⟨.operand, position :: opened⟩
    | .operator .minus => some ⟨.operand, opened⟩
    | _ => none
  | ⟨.operator, opened⟩, ⟨kind, _⟩ =>
    match kind, opened with
    | .operator _, opened => some ⟨.operand, opened⟩
    | .closing, _ :: opened => some ⟨.operator, opened⟩
    | _, _ => none

/-- The outlook behind tokens that are allowed one after the other. -/
def along? (outlook : Outlook) (tokens : List Token) : Option Outlook :=
  tokens.foldlM next? outlook

/-- Why a token that is not allowed is refused. -/
def refusal (outlook : Outlook) (kind : TokenKind) : Cause :=
  match kind, outlook.demand, outlook.opened with
  -- A closing parenthesis while none is open.
  | .closing, _, [] => .unmatchedParenthesis
  -- An operand behind a whole expression.
  | .number _, .operator, [] => .trailingInput
  | .opening, .operator, [] => .trailingInput
  | _, _, _ => .unexpectedToken

/-- The error of a token that is not allowed. -/
def error (outlook : Outlook) (token : Token) : Error :=
  .placed .parsing (outlook.refusal token.kind) token.position

/-- The outlook behind no token. -/
@[simp] lemma along?_nil (outlook : Outlook) : outlook.along? [] = some outlook := rfl

/-- The outlook behind a first token and further ones. -/
@[simp] lemma along?_cons (outlook : Outlook) (token : Token) (tokens : List Token) :
    outlook.along? (token :: tokens) = (outlook.next? token).bind (·.along? tokens) := rfl

/-- The outlook behind tokens and further ones. -/
lemma along?_append (outlook : Outlook) (tokens tokens' : List Token) :
    outlook.along? (tokens ++ tokens') = (outlook.along? tokens).bind (·.along? tokens') := by
  simp [along?, List.foldlM_append, Option.bind_eq_bind]

/-- Either all tokens are allowed, or there is a first one that is not. -/
lemma along?_cases (outlook : Outlook) (tokens : List Token) :
    (∃ last, outlook.along? tokens = some last) ∨
      ∃ before token after refusing, tokens = before ++ token :: after ∧
        outlook.along? before = some refusing ∧ refusing.next? token = none := by
  induction tokens generalizing outlook with
  | nil => exact Or.inl ⟨outlook, rfl⟩
  | cons token tokens ih =>
    cases hnext : outlook.next? token with
    | none => exact Or.inr ⟨[], token, tokens, outlook, rfl, rfl, hnext⟩
    | some next =>
      rcases ih next with ⟨last, hlast⟩ | ⟨before, token', after, refusing, rfl, hbefore, hnone⟩
      · exact Or.inl ⟨last, by simp [hnext, hlast]⟩
      · have hcons : outlook.along? (token :: before) = some refusing := by simp [hnext, hbefore]
        exact Or.inr ⟨token :: before, token', after, refusing, rfl, hcons, hnone⟩

end Outlook

/-- How the tokens of a stream are refused, with the error. -/
inductive FailsWith (stream : TokenStream) : Error → Prop where
  /-- The first token that is not allowed decides, whatever comes behind it. -/
  | token {before after : List Token} {token : Token} {outlook : Outlook}
      (split : stream.tokens = before ++ token :: after)
      (allowed : Outlook.start.along? before = some outlook)
      (refused : outlook.next? token = none) : FailsWith stream (outlook.error token)
  /-- All tokens are allowed, but the stream breaks off. -/
  | broken {position : Nat} {outlook : Outlook}
      (allowed : Outlook.start.along? stream.tokens = some outlook)
      (ending : stream.ending = .broken position) :
      FailsWith stream (.placed .lexing .invalidCharacter position)
  /-- The source ends without a token. -/
  | empty {length : Nat} (nothing : stream.tokens = [])
      (ending : stream.ending = .complete length) :
      FailsWith stream (.unplaced .parsing .emptyExpression)
  /-- The source ends where an operand is expected. -/
  | operand {length : Nat} {opened : List Nat} (something : stream.tokens ≠ [])
      (allowed : Outlook.start.along? stream.tokens = some ⟨.operand, opened⟩)
      (ending : stream.ending = .complete length) :
      FailsWith stream (.placed .parsing .unexpectedToken length)
  /-- The source ends inside parentheses, of which the innermost is reported. -/
  | unclosed {length position : Nat} {opened : List Nat}
      (allowed : Outlook.start.along? stream.tokens = some ⟨.operator, position :: opened⟩)
      (ending : stream.ending = .complete length) :
      FailsWith stream (.placed .parsing .unmatchedParenthesis position)

/-! ### The outlook of a reader -/

namespace Reader

/-- The outlook of a reader. -/
def outlook : Reader → Outlook
  | .expecting _ outer => ⟨.operand, outer.map (·.position)⟩
  | .after _ _ outer => ⟨.operator, outer.map (·.position)⟩

/-- A reader takes the tokens that its outlook allows, and refuses the others. -/
lemma outlook_step (reader : Reader) (token : Token) :
    (reader.step token).map outlook =
      match reader.outlook.next? token with
      | some next => .ok next
      | none => .error (reader.outlook.error token) := by
  obtain ⟨kind, position⟩ := token
  cases reader with
  | expecting group outer =>
    cases kind with
    | number numeral => rfl
    | opening => rfl
    | closing => cases outer <;> rfl
    | operator op => cases op <;> rfl
  | after sum term outer =>
    cases kind with
    | number numeral => cases outer <;> rfl
    | opening => cases outer <;> rfl
    | closing => cases outer <;> rfl
    | operator op => cases op <;> rfl

/-- Tokens that the outlook allows are taken, and lead to the outlook behind them. -/
lemma exists_steps_of_along? (reader : Reader) {tokens : List Token} {last : Outlook}
    (h : reader.outlook.along? tokens = some last) :
    ∃ reader', reader.steps tokens = .ok reader' ∧ reader'.outlook = last := by
  induction tokens generalizing reader with
  | nil => exact ⟨reader, rfl, Option.some.inj h⟩
  | cons token tokens ih =>
    obtain ⟨next, hnext, hlast⟩ := Option.bind_eq_some_iff.mp h
    have hstep := reader.outlook_step token
    rw [hnext] at hstep
    cases htaken : reader.step token with
    | error e =>
      rw [htaken] at hstep
      cases hstep
    | ok reader' =>
      rw [htaken] at hstep
      cases hstep
      simp only [steps, htaken]
      exact ih reader' hlast

/-- The first token that the outlook does not allow is refused, whatever comes behind it. -/
lemma steps_eq_error (reader : Reader) {before : List Token} (after : List Token) {token : Token}
    {refusing : Outlook} (hbefore : reader.outlook.along? before = some refusing)
    (hrefused : refusing.next? token = none) :
    reader.steps (before ++ token :: after) = .error (refusing.error token) := by
  obtain ⟨reader', hsteps, rfl⟩ := exists_steps_of_along? reader hbefore
  have hstep := reader'.outlook_step token
  rw [hrefused] at hstep
  rw [steps_append, hsteps]
  cases htaken : reader'.step token with
  | ok next =>
    rw [htaken] at hstep
    cases hstep
  | error e =>
    rw [htaken] at hstep
    cases hstep
    simp only [Except.bind, steps, htaken]

end Reader

/-! ### The error of a source -/

/-- A stream that is refused has the error with which it is refused. -/
lemma FailsWith.ofStream?_eq {stream : TokenStream} {e : Error} (h : FailsWith stream e) :
    Expr.ofStream? stream = .error e := by
  cases h with
  | @token before after token outlook split allowed refused =>
    have hsteps := Reader.steps_eq_error .start after allowed refused
    simp only [Expr.ofStream?, split, hsteps]
  | broken allowed ending =>
    obtain ⟨reader, hsteps, -⟩ := Reader.exists_steps_of_along? .start allowed
    simp only [Expr.ofStream?, hsteps, ending]
  | empty nothing ending =>
    simp only [Expr.ofStream?, nothing, Reader.steps, ending, if_true]
  | operand something allowed ending =>
    obtain ⟨reader, hsteps, houtlook⟩ := Reader.exists_steps_of_along? .start allowed
    simp only [Expr.ofStream?, hsteps, ending, something, if_false]
    cases reader with
    | expecting group outer => rfl
    | after sum term outer => cases houtlook
  | @unclosed length position opened allowed ending =>
    have hne : stream.tokens ≠ [] := by
      intro hnil
      rw [hnil] at allowed
      cases allowed
    obtain ⟨reader, hsteps, houtlook⟩ := Reader.exists_steps_of_along? .start allowed
    simp only [Expr.ofStream?, hsteps, ending, hne, if_false]
    cases reader with
    | expecting group outer => cases houtlook
    | after sum term outer =>
      cases outer with
      | nil => cases houtlook
      | cons enclosing outer =>
        cases houtlook
        rfl

/-- A stream that is read as no expression is refused with its error. -/
lemma failsWith_of_ofStream? {stream : TokenStream} {e : Error}
    (h : Expr.ofStream? stream = .error e) : FailsWith stream e := by
  rcases Outlook.start.along?_cases stream.tokens with
    ⟨last, hlast⟩ | ⟨before, token, after, refusing, hsplit, hbefore, hrefused⟩
  · obtain ⟨reader, hsteps, houtlook⟩ := Reader.exists_steps_of_along? .start hlast
    simp only [Expr.ofStream?, hsteps] at h
    cases hending : stream.ending with
    | broken position =>
      simp only [hending, Except.error.injEq] at h
      subst h
      exact .broken hlast hending
    | complete length =>
      simp only [hending] at h
      split at h
      · next hnil =>
        cases h
        exact .empty hnil hending
      · next hne =>
        subst houtlook
        cases reader with
        | expecting group outer =>
          cases h
          exact .operand hne hlast hending
        | after sum term outer =>
          cases outer with
          | nil => cases h
          | cons enclosing outer =>
            cases h
            exact .unclosed hlast hending
  · have hsteps := Reader.steps_eq_error .start after hbefore hrefused
    simp only [Expr.ofStream?, hsplit, hsteps, Except.error.injEq] at h
    subst h
    exact .token hsplit hbefore hrefused

/-- A source is read as no expression exactly when its tokens are refused, and the error is that
of the refusal. Its end is the number of its characters, a stream breaks off at an offending
character, and sources that begin with the same tokens up to the first one that is not allowed
have the same error, whatever comes behind. -/
theorem fails_iff_refused (source : String) :
    (∀ e, Expr.ofText? source = .error e ↔ FailsWith (.ofChars source.toList) e) ∧
    (∀ length, (TokenStream.ofChars source.toList).ending = .complete length →
      length = source.length) ∧
    (∀ position, (TokenStream.ofChars source.toList).ending = .broken position →
      ∃ before c after, source.toList = before ++ c :: after ∧ before.length = position ∧
        Offends c after) ∧
    ∀ before token outlook, Outlook.start.along? before = some outlook →
      outlook.next? token = none →
      before ++ [token] <+: (TokenStream.ofChars source.toList).tokens →
      ∀ other : String, before ++ [token] <+: (TokenStream.ofChars other.toList).tokens →
        Expr.ofText? other = Expr.ofText? source := by
  refine ⟨fun e => ⟨failsWith_of_ofStream?, FailsWith.ofStream?_eq⟩, ?_, ?_, ?_⟩
  · intro length h
    rw [TokenStream.length_of_scan h, String.length_toList, Nat.zero_add]
  · intro position h
    obtain ⟨before, c, after, hsplit, hposition, hoffends⟩ := TokenStream.offends_of_scan h
    exact ⟨before, c, after, hsplit, by omega, hoffends⟩
  · intro before token outlook hbefore hrefused hsource other hother
    have herror : ∀ text : String, before ++ [token] <+: (TokenStream.ofChars text.toList).tokens →
        Expr.ofText? text = .error (outlook.error token) := by
      rintro text ⟨after, hafter⟩
      rw [List.append_assoc] at hafter
      exact FailsWith.ofStream?_eq (.token hafter.symm hbefore hrefused)
    rw [herror other hother, herror source hsource]

end Calculator
