import Calculator.Proofs.Expression.Continuation
import Calculator.Proofs.Expression.Slots
import Calculator.Proofs.Expression.Values

/-!
# The outcomes of an evaluation

The value of a source is finite, and if a source has none, the error is one of eight (`Reported`):
each carries a position at which the source has a character of the kind that the error is about,
or the end of the source, or no position (`evaluate_outcome`).

No other way out is left open. Reading comes to no mishap (`Slots.read_eq`), and the expression that
is read has no hole, so its value is computed without a hole that is visited and without an empty
stack (`Expr.IsWhole.value_cases`).
-/

namespace Calculator

/-! ### Errors and their places -/

/-- Whether a character begins a token. -/
def beginsToken (c : Char) : Bool := isNumeric c || (TokenKind.ofChar? c).isSome

/-- The errors that a source may have, with what stands at their positions. -/
inductive Reported (source : String) : Error → Prop where
  | invalidCharacter {before after : List Char} {c : Char}
      (split : source.toList = before ++ c :: after) (offends : Offends c after) :
      Reported source (.placed .lexing .invalidCharacter before.length)
  | unmatchedParenthesis {position : Nat} {c : Char}
      (place : source.toList[position]? = some c) (parenthesis : c = '(' ∨ c = ')') :
      Reported source (.placed .parsing .unmatchedParenthesis position)
  | trailingInput {position : Nat} {c : Char}
      (place : source.toList[position]? = some c) (operand : isNumeric c = true ∨ c = '(') :
      Reported source (.placed .parsing .trailingInput position)
  | missingOperand : Reported source (.placed .parsing .unexpectedToken source.length)
  | unexpectedToken {position : Nat} {c : Char}
      (place : source.toList[position]? = some c) (token : beginsToken c = true) (sign : c ≠ '-') :
      Reported source (.placed .parsing .unexpectedToken position)
  | emptyExpression : Reported source (.unplaced .parsing .emptyExpression)
  | divisionByZero : Reported source (.unplaced .evaluation .divisionByZero)
  | nonFiniteResult : Reported source (.unplaced .evaluation .nonFiniteResult)

/-- A number, an operator or a parenthesis stands in a source with its first character, which begins
a token. -/
lemma TokenStream.exists_place {source : String} {token : Token}
    (h : token ∈ (ofChars source.toList).tokens) :
    ∃ c, source.toList[token.position]? = some c ∧ token.kind.text.head? = some c ∧
      (∀ n, token.kind = .number n → isNumeric c = true) := by
  obtain ⟨hlt, hplace⟩ := getElem?_of_mem_ofChars h
  have hat := List.getElem?_eq_getElem hlt
  have hhead : token.kind.text.head? = some source.toList[token.position] := by rw [← hplace, hat]
  refine ⟨source.toList[token.position], hat, hhead, fun n hn => ?_⟩
  obtain ⟨kind, position⟩ := token
  cases hn
  exact isNumeric_of_mem_scan h hhead

/-- A token that is not allowed is reported with its first character. -/
lemma reported_of_refused {source : String} {token : Token} {outlook : Outlook}
    (h : token ∈ (TokenStream.ofChars source.toList).tokens)
    (refused : outlook.next? token = none) :
    Reported source (outlook.error token) := by
  obtain ⟨c, hplace, hhead, hnumber⟩ := TokenStream.exists_place h
  obtain ⟨demand, opened⟩ := outlook
  obtain ⟨kind, position⟩ := token
  cases kind with
  | number n =>
    have hnumeric := hnumber n rfl
    have hsign : c ≠ '-' := by
      rintro rfl
      cases hnumeric
    cases demand with
    | operand => cases refused
    | operator =>
      cases opened with
      | nil => exact .trailingInput hplace (Or.inl hnumeric)
      | cons first opened =>
        exact .unexpectedToken hplace (by simp [beginsToken, hnumeric]) hsign
  | opening =>
    cases hhead
    cases demand with
    | operand => cases refused
    | operator =>
      cases opened with
      | nil => exact .trailingInput hplace (Or.inr rfl)
      | cons first opened => exact .unexpectedToken hplace rfl (by decide)
  | closing =>
    cases hhead
    cases opened with
    | nil =>
      cases demand <;> exact .unmatchedParenthesis hplace (Or.inr rfl)
    | cons first opened =>
      cases demand with
      | operand => exact .unexpectedToken hplace rfl (by decide)
      | operator => cases refused
  | operator op =>
    cases hhead
    cases demand with
    | operator => cases refused
    | operand =>
      cases op with
      | minus => cases refused
      | _ => exact .unexpectedToken hplace rfl (by decide)

/-- A refusal of the tokens of a source is reported. -/
lemma FailsWith.reported {source : String} {e : Error}
    (h : FailsWith (.ofChars source.toList) e) : Reported source e := by
  cases h with
  | @token before after token outlook split allowed refused =>
    refine reported_of_refused ?_ refused
    rw [split]
    simp
  | broken allowed ending =>
    obtain ⟨before, c, after, hsplit, hposition, hoffends⟩ := TokenStream.offends_of_scan ending
    rw [Nat.zero_add] at hposition
    rw [hposition]
    exact .invalidCharacter hsplit hoffends
  | empty nothing ending => exact .emptyExpression
  | operand something allowed ending =>
    rw [TokenStream.length_of_scan ending, Nat.zero_add, String.length_toList]
    exact .missingOperand
  | unclosed allowed ending =>
    rcases Outlook.exists_of_mem_opened allowed List.mem_cons_self with hstart | htoken
    · cases hstart
    · exact .unmatchedParenthesis (TokenStream.getElem?_of_mem_ofChars htoken).2 (Or.inl rfl)

/-! ### Outcomes -/

/-- A number that is accepted is finite. -/
lemma finite?_eq_ok {x y : Double} (h : finite? x = .ok y) : x = y ∧ y.isFinite = true := by
  unfold finite? at h
  split at h
  · next hfinite =>
    cases h
    exact ⟨rfl, hfinite⟩
  · cases h

/-- A number that is not accepted is out of range. -/
lemma finite?_eq_error {x : Double} {e : Error} (h : finite? x = .error e) :
    e = .unplaced .evaluation .nonFiniteResult := by
  unfold finite? at h
  split at h <;> cases h
  rfl

/-- The value of a source is that of its expression, if it is finite. -/
lemma evaluate_of_ofText? {source : String} {expr : Expr} {x : Double}
    (hexpr : Expr.ofText? source = .ok expr) (hrun : expr.run = .ok x) :
    evaluate source = finite? x := by
  have hchars : Expr.ofChars? source.toList = .ok expr := hexpr
  simp only [evaluate, evaluateChars, hchars, hrun]

/-- The value of a source is finite. -/
lemma isFinite_of_evaluate {source : String} {x : Double} (h : evaluate source = .ok x) :
    x.isFinite = true := by
  unfold evaluate evaluateChars at h
  cases hexpr : Expr.ofChars? source.toList with
  | error e =>
    rw [hexpr] at h
    cases h
  | ok expr =>
    simp only [hexpr] at h
    cases hrun : expr.run with
    | error fault =>
      rw [hrun] at h
      cases h
    | ok y =>
      simp only [hrun] at h
      exact (finite?_eq_ok h).2

/-- A source has a finite value or a reported error. It is read without a mishap, also where groups
and tokens may be missing, and the expression that is read has a value unless a divisor is zero. -/
theorem evaluate_outcome (source : String) :
    (∀ x, evaluate source = .ok x → x.isFinite = true) ∧
    (∀ e, evaluate source = .error e → Reported source e) ∧
    Slots.read (.ofChars source.toList) = (Expr.ofText? source).mapError .refused ∧
    (∀ m, Slots.read (.ofChars source.toList) ≠ .error (.mishap m)) ∧
    ∀ expr, Expr.ofText? source = .ok expr →
      (∃ x, expr.run = .ok x) ∨ expr.run = .error .divisionByZero := by
  have hrun : ∀ expr, Expr.ofText? source = .ok expr →
      (∃ x, expr.run = .ok x) ∨ expr.run = .error .divisionByZero := by
    intro expr hexpr
    rw [Expr.run_eq_value]
    exact (Expr.isWhole_of_ofStream? hexpr).value_cases
  have hread : Slots.read (.ofChars source.toList) = (Expr.ofText? source).mapError .refused :=
    Slots.read_eq _
  have hmishap : ∀ m, Slots.read (.ofChars source.toList) ≠ .error (.mishap m) := by
    intro m hm
    rw [hread] at hm
    cases hexpr : Expr.ofText? source <;> rw [hexpr] at hm <;> cases hm
  cases hexpr : Expr.ofText? source with
  | error e =>
    have hfails : evaluate source = .error e := by
      have hchars : Expr.ofChars? source.toList = .error e := hexpr
      simp only [evaluate, evaluateChars, hchars]
    rw [hfails, ← hexpr]
    refine ⟨fun x hx => (nomatch hx), ?_, hread, hmishap, hrun⟩
    rintro e' ⟨⟩
    exact (failsWith_of_ofStream? hexpr).reported
  | ok expr =>
    rw [← hexpr]
    rcases hrun expr hexpr with ⟨x, hx⟩ | hzero
    · rw [evaluate_of_ofText? hexpr hx]
      refine ⟨fun y hy => (finite?_eq_ok hy).2, ?_, hread, hmishap, hrun⟩
      intro e he
      rw [finite?_eq_error he]
      exact .nonFiniteResult
    · have hfails : evaluate source = .error (.unplaced .evaluation .divisionByZero) := by
        have hchars : Expr.ofChars? source.toList = .ok expr := hexpr
        simp only [evaluate, evaluateChars, hchars, hzero, Fault.error]
      rw [hfails]
      refine ⟨fun x hx => (nomatch hx), ?_, hread, hmishap, hrun⟩
      rintro e' ⟨⟩
      exact .divisionByZero

end Calculator
