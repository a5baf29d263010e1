import Calculator.Proofs.Decimal.Values
import Calculator.Proofs.Expression.LeadingMinus
import Calculator.Proofs.Expression.Numerals
import Calculator.Proofs.Expression.Spacing

/-!
# Zeros in front of a source

Zeros in front of a number are digits of the number and do not change its value
(`Numeral.value_behind`). In front of anything else they are a number of their own. Then a minus
sign means the same as before, while there are three ways in which a source is misread behind zeros
(`Misread`): it is empty, it begins with another operator, or it begins with an operand.
A source has the same outcome behind zeros just when none of these is the case
(`sameOutcome_zeros_iff`).
-/

namespace Calculator

/-! ### Numbers behind zeros -/

namespace Numeral

/-- A numeral behind a number of zeros. -/
def behind (n : Nat) (m : Numeral) : Numeral := ⟨List.replicate n '0' ++ m.whole, m.fraction⟩

/-- The zeros come first. -/
lemma text_behind (n : Nat) (m : Numeral) :
    (m.behind n).text = List.replicate n '0' ++ m.text := by
  unfold text behind
  split
  · rfl
  · exact List.append_assoc _ _ _

/-- The zeros have no value. -/
lemma value_behind (n : Nat) (m : Numeral) : (m.behind n).value = m.value := by
  simp only [value, behind]
  rw [List.append_assoc, digitsValue_append, digitsValue_zeros, Nat.zero_mul, Nat.zero_add]

/-- Zeros are digits. -/
lemma isDigit_of_mem_replicate {n : Nat} {c : Char} (h : c ∈ List.replicate n '0') :
    c.isDigit = true := by
  rw [List.eq_of_mem_replicate h]
  rfl

/-- The number at the beginning of a text is found behind zeros as well, and if it breaks off it
does so as many places behind. -/
lemma first_zeros (n : Nat) (cs : List Char) :
    first (List.replicate n '0' ++ cs) =
      match first cs with
      | .error offset => .error (n + offset)
      | .ok m => .ok (m.behind n) := by
  have hdigits : ∀ c ∈ List.replicate n '0', c.isDigit = true :=
    fun _ => isDigit_of_mem_replicate
  have hwhole : (List.replicate n '0' ++ cs).takeWhile Char.isDigit =
      List.replicate n '0' ++ cs.takeWhile Char.isDigit := List.takeWhile_append_of_pos hdigits
  have hrest : (List.replicate n '0' ++ cs).dropWhile Char.isDigit = cs.dropWhile Char.isDigit :=
    List.dropWhile_append_of_pos hdigits
  rcases point_or_not cs with ⟨after, hpoint⟩ | hpoint
  · rw [first_of_point hpoint, first_of_point (hrest.trans hpoint), hwhole]
    split
    · exact congrArg Except.error (by rw [List.length_append, List.length_replicate])
    · rfl
  · have hpoint' : ∀ after,
        (List.replicate n '0' ++ cs).dropWhile Char.isDigit ≠ '.' :: after := by
      rw [hrest]
      exact hpoint
    rw [first_of_no_point hpoint, first_of_no_point hpoint', hwhole]
    rfl

/-- A number of zeros. -/
def zeros (n : Nat) : Numeral := ⟨List.replicate n '0', []⟩

/-- Zeros are a proper numeral if there are any. -/
lemma isProper_zeros {n : Nat} (hn : 0 < n) : (zeros n).IsProper where
  whole _ := isDigit_of_mem_replicate
  fraction := nofun
  digit := by
    refine Or.inl fun hnil => ?_
    have hlength : n = 0 := by simpa [zeros] using hnil
    omega

/-- The value of zeros is zero. -/
lemma value_zeros (n : Nat) : (zeros n).value = .zero false := by
  simp only [value, zeros, List.append_nil, digitsValue_zeros]
  rfl

end Numeral

namespace TokenStream

/-- The place of a number and its digits do not matter, if its value is the same. -/
lemma outcome_cons_number {m m' : Numeral} (h : m.value = m'.value) (place place' : Nat)
    (stream : TokenStream) :
    (cons ⟨.number m, place⟩ stream).outcome = (cons ⟨.number m', place'⟩ stream).outcome := by
  have hstep : Reader.start.step ⟨.number m, place⟩ = Reader.start.step ⟨.number m', place'⟩ := by
    simp only [Reader.start, Reader.step, h]
  have hread : Expr.ofStream? (cons ⟨.number m, place⟩ stream) =
      Expr.ofStream? (cons ⟨.number m', place'⟩ stream) := by
    simp only [Expr.ofStream?, cons, Reader.steps, hstep, reduceCtorEq, if_false]
  simp only [outcome, hread]

/-- A stream has no value if a token is refused after those before it are taken. -/
lemma outcome_of_refused {stream : TokenStream} (before : List Token) {after : List Token}
    {token : Token} {reader : Reader} {e : Error}
    (htokens : stream.tokens = before ++ token :: after)
    (htaken : Reader.start.steps before = .ok reader) (hrefused : reader.step token = .error e) :
    stream.outcome = .error e := by
  have hsteps : Reader.start.steps stream.tokens = .error e := by
    rw [htokens, Reader.steps_append, htaken]
    simp only [Except.bind, Reader.steps, hrefused]
  simp only [outcome, Expr.ofStream?, hsteps]

end TokenStream

/-! ### Outcomes behind zeros -/

/-- An error may be at another place. -/
lemma sameOutcome_mapError_iff (f : Error → Error) (a b : Except Error Double) :
    SameOutcome a (b.mapError f) ↔ SameOutcome a b := by
  cases b with
  | ok x => exact Iff.rfl
  | error e =>
    constructor
    · rintro ⟨⟩
      exact .errors
    · rintro ⟨⟩
      exact .errors

/-- Nothing has the same outcome as an error but another error. -/
lemma sameOutcome_error_iff {e : Error} {b : Except Error Double} :
    SameOutcome (.error e) b ↔ ∀ x, b ≠ .ok x := by
  constructor
  · rintro ⟨⟩ x hx
    cases hx
  · intro h
    cases b with
    | ok x => exact absurd rfl (h x)
    | error e' => exact .errors

/-- An error has the same outcome as nothing but another error. -/
lemma sameOutcome_iff_error {e : Error} {a : Except Error Double} :
    SameOutcome a (.error e) ↔ ∀ x, a ≠ .ok x := by
  constructor
  · rintro ⟨⟩ x hx
    cases hx
  · intro h
    cases a with
    | ok x => exact absurd rfl (h x)
    | error e' => exact .errors

/-- Every source has the same outcome as itself. -/
lemma sameOutcome_self (cs : List Char) : SameOutcome (evaluateChars cs) (evaluateChars cs) := by
  rw [evaluateChars_eq_outcome]
  cases hread : Expr.ofStream? (TokenStream.ofChars cs) with
  | error e =>
    rw [TokenStream.outcome_of_error hread]
    exact .errors
  | ok expr =>
    refine TokenStream.sameOutcome_of_sameValue hread hread ?_
    cases expr.value with
    | error fault => exact .faults
    | ok x => exact .values (.refl x)

/-! ### Zeros that run into a number -/

/-- A text that begins with a digit or a point begins with a number, or breaks off at once. -/
lemma TokenStream.ofChars_of_numeric {c : Char} (hc : isNumeric c = true) (cs : List Char) :
    (∃ m rest, (ofChars (c :: cs)).tokens = ⟨.number m, 0⟩ :: rest) ∨
      ∃ position, ofChars (c :: cs) = ⟨[], .broken position⟩ := by
  cases hfirst : Numeral.first (c :: cs) with
  | error offset => exact Or.inr ⟨_, scan_broken_number 0 hc hfirst⟩
  | ok m =>
    obtain ⟨rest, hsplit, -⟩ := Numeral.exists_of_first hfirst
    have hscan := scan_number 0 hc hfirst hsplit
    exact Or.inl ⟨m, _, congrArg TokenStream.tokens hscan⟩

/-- A source that begins with a number has the same value behind zeros, or its error so many places
behind. -/
lemma evaluateChars_zeros_of_numeric {n : Nat} (hn : 0 < n) {c : Char} {cs : List Char}
    (hc : isNumeric c = true) :
    evaluateChars (List.replicate n '0' ++ c :: cs) =
      (evaluateChars (c :: cs)).mapError (Error.relocate (· + n)) := by
  have hnumeric : isNumeric '0' = true := by decide
  have hzeros : List.replicate n '0' ++ c :: cs =
      '0' :: (List.replicate (n - 1) '0' ++ c :: cs) := by
    rw [← List.cons_append, ← List.replicate_succ, Nat.sub_add_cancel hn]
  have hbehind := Numeral.first_zeros n (c :: cs)
  simp only [evaluateChars_eq_outcome, ← TokenStream.outcome_relocate]
  cases hfirst : Numeral.first (c :: cs) with
  | error offset =>
    rw [hfirst, hzeros] at hbehind
    have hscan := TokenStream.scan_broken_number 0 hc hfirst
    have hscan' := TokenStream.scan_broken_number 0 hnumeric hbehind
    have hplace : 0 + (n + offset) = 0 + offset + n := by omega
    rw [TokenStream.ofChars, TokenStream.ofChars, hzeros, hscan, hscan', hplace]
    rfl
  | ok m =>
    rw [hfirst, hzeros] at hbehind
    obtain ⟨rest, hsplit, -⟩ := Numeral.exists_of_first hfirst
    have hsplit' : '0' :: (List.replicate (n - 1) '0' ++ c :: cs) = (m.behind n).text ++ rest := by
      rw [← hzeros, Numeral.text_behind, List.append_assoc, ← hsplit]
    have hscan := TokenStream.scan_number 0 hc hfirst hsplit
    have hscan' := TokenStream.scan_number 0 hnumeric hbehind hsplit'
    have hplace : 0 + (m.behind n).text.length = 0 + m.text.length + n := by
      rw [Numeral.text_behind, List.length_append, List.length_replicate]
      omega
    have hrest := TokenStream.scan_relocate (f := (· + n)) rest (0 + m.text.length)
      fun _ _ => rfl
    rw [TokenStream.ofChars, TokenStream.ofChars, hzeros, hscan, hscan', hplace, hrest,
      TokenStream.cons_relocate]
    exact TokenStream.outcome_cons_number (m.value_behind n) _ _ _

/-! ### Zeros that are a number of their own -/

/-- Zeros in front of a source that begins with no number are a number in front of its tokens. -/
lemma evaluateChars_zeros_of_apart {n : Nat} (hn : 0 < n) {cs : List Char}
    (apart : ∀ c ∈ cs.head?, isNumeric c = false) :
    evaluateChars (List.replicate n '0' ++ cs) =
      (TokenStream.cons ⟨.number (.zeros n), 0⟩ (.ofChars cs)).outcome.mapError
        (Error.relocate (· + n)) := by
  have hends : (Numeral.zeros n).EndsBefore cs := by
    intro d hd
    have hnumeric : d.isDigit = false ∧ d ≠ '.' := by simpa [isNumeric] using apart d hd
    exact ⟨hnumeric.1, fun _ => hnumeric.2⟩
  have hscan := TokenStream.scan_text_append (Numeral.isProper_zeros hn) hends 0
  have htext : (Numeral.zeros n).text = List.replicate n '0' := if_pos rfl
  have hrest := TokenStream.scan_relocate (f := (· + n)) cs 0 fun _ _ => rfl
  rw [htext, List.length_replicate, hrest] at hscan
  rw [← TokenStream.outcome_relocate, TokenStream.cons_relocate]
  have hstream : TokenStream.ofChars (List.replicate n '0' ++ cs) = _ := hscan
  rw [evaluateChars_eq_outcome, hstream]
  exact TokenStream.outcome_cons_number rfl _ _ _

/-- A source that is misread behind zeros: it is empty, and the zeros are a value; it begins with an
operator other than a minus sign, and the zeros are the operand that it lacks; or it has a value and
begins with an operand that does not go on with the zeros. -/
inductive Misread (n : Nat) (cs : List Char) : Prop
  | nothing {length : Nat} (tokens : (TokenStream.ofChars cs).tokens = [])
      (complete : (TokenStream.ofChars cs).ending = .complete length)
  | operator {op : Operator} {position : Nat} {rest : List Token} {x : Double}
      (tokens : (TokenStream.ofChars cs).tokens = ⟨.operator op, position⟩ :: rest)
      (sign : op ≠ .minus) (value : evaluateChars (List.replicate n '0' ++ cs) = .ok x)
  | operand {kind : TokenKind} {position : Nat} {rest : List Token} {x : Double}
      (tokens : (TokenStream.ofChars cs).tokens = ⟨kind, position⟩ :: rest)
      (operand : kind = .opening ∨ ∃ m, kind = .number m)
      (apart : ∀ c ∈ cs.head?, isNumeric c = false) (value : evaluateChars cs = .ok x)

/-- Of the sources without a token the empty ones are misread. -/
lemma misread_iff_of_nil {n : Nat} {cs : List Char} (h : (TokenStream.ofChars cs).tokens = []) :
    Misread n cs ↔ ∃ length, (TokenStream.ofChars cs).ending = .complete length := by
  constructor
  · intro hmisread
    cases hmisread with
    | nothing tokens complete => exact ⟨_, complete⟩
    | operator tokens sign value => cases h.symm.trans tokens
    | operand tokens operand apart value => cases h.symm.trans tokens
  · rintro ⟨length, hcomplete⟩
    exact .nothing h hcomplete

/-- Whether a source with tokens is misread depends on the first one and on the values. -/
lemma misread_iff_of_cons {n : Nat} {cs : List Char} {token : Token} {rest : List Token}
    (h : (TokenStream.ofChars cs).tokens = token :: rest) :
    Misread n cs ↔
      (∃ op, op ≠ .minus ∧ token.kind = .operator op ∧
        ∃ x, evaluateChars (List.replicate n '0' ++ cs) = .ok x) ∨
      (token.kind = .opening ∨ ∃ m, token.kind = .number m) ∧
        (∀ c ∈ cs.head?, isNumeric c = false) ∧ ∃ x, evaluateChars cs = .ok x := by
  constructor
  · intro hmisread
    cases hmisread with
    | nothing tokens complete => cases h.symm.trans tokens
    | operator tokens sign value =>
      cases h.symm.trans tokens
      exact Or.inl ⟨_, sign, rfl, _, value⟩
    | operand tokens operand apart value =>
      cases h.symm.trans tokens
      exact Or.inr ⟨operand, apart, _, value⟩
  · rintro (⟨op, hsign, hkind, x, hvalue⟩ | ⟨hoperand, hapart, x, hvalue⟩)
    · obtain ⟨kind, position⟩ := token
      cases hkind
      exact .operator h hsign hvalue
    · exact .operand h hoperand hapart hvalue

/-- A source that begins with a number is not misread. -/
lemma not_misread_of_numeric (n : Nat) {c : Char} {cs : List Char} (hc : isNumeric c = true) :
    ¬Misread n (c :: cs) := by
  have hhead : ¬∀ d ∈ (c :: cs).head?, isNumeric d = false := by
    intro h
    cases hc.symm.trans (h c rfl)
  rcases TokenStream.ofChars_of_numeric hc cs with ⟨m, rest, hnumber⟩ | ⟨position, hbroken⟩
  · rw [misread_iff_of_cons hnumber]
    rintro (⟨op, -, hkind, -⟩ | ⟨-, hapart, -⟩)
    · cases hkind
    · exact hhead hapart
  · rw [misread_iff_of_nil (by rw [hbroken]), hbroken]
    rintro ⟨length, hcomplete⟩
    cases hcomplete

namespace TokenStream

variable {stream : TokenStream} {position : Nat} {rest : List Token}

/-- A stream that begins with an operator other than a minus sign has no value. -/
lemma outcome_of_operator {op : Operator}
    (htokens : stream.tokens = ⟨.operator op, position⟩ :: rest) (hsign : op ≠ .minus) :
    stream.outcome = .error (.placed .parsing .unexpectedToken position) := by
  refine outcome_of_refused [] htokens rfl ?_
  cases op with
  | minus => exact absurd rfl hsign
  | _ => rfl

/-- A stream that begins with a closing parenthesis has no value. -/
lemma outcome_of_closing (htokens : stream.tokens = ⟨.closing, position⟩ :: rest) :
    stream.outcome = .error (.placed .parsing .unmatchedParenthesis position) :=
  outcome_of_refused [] htokens rfl rfl

/-- A stream that begins with a closing parenthesis has no value behind a number either. -/
lemma outcome_cons_closing (htokens : stream.tokens = ⟨.closing, position⟩ :: rest) (m : Numeral)
    (place : Nat) :
    (cons ⟨.number m, place⟩ stream).outcome =
      .error (.placed .parsing .unmatchedParenthesis position) :=
  outcome_of_refused [⟨.number m, place⟩] (congrArg (_ :: ·) htokens) rfl rfl

/-- A stream that begins with an operand has no value behind a number. -/
lemma outcome_cons_operand {kind : TokenKind} (htokens : stream.tokens = ⟨kind, position⟩ :: rest)
    (hoperand : kind = .opening ∨ ∃ m, kind = .number m) (m : Numeral) (place : Nat) :
    (cons ⟨.number m, place⟩ stream).outcome =
      .error (.placed .parsing .trailingInput position) := by
  refine outcome_of_refused [⟨.number m, place⟩] (congrArg (_ :: ·) htokens) rfl ?_
  rcases hoperand with rfl | ⟨m', rfl⟩ <;> rfl

end TokenStream

/-- A token is an operand that begins, a closing parenthesis, a minus sign or another operator. -/
lemma TokenKind.first_cases (kind : TokenKind) :
    (kind = .opening ∨ ∃ m, kind = .number m) ∨ kind = .closing ∨ kind = .operator .minus ∨
      ∃ op, op ≠ .minus ∧ kind = .operator op := by
  cases kind with
  | number m => exact Or.inl (Or.inr ⟨m, rfl⟩)
  | opening => exact Or.inl (Or.inl rfl)
  | closing => exact Or.inr (Or.inl rfl)
  | operator op =>
    by_cases hminus : op = .minus
    · exact Or.inr (Or.inr (Or.inl (congrArg _ hminus)))
    · exact Or.inr (Or.inr (Or.inr ⟨op, hminus, rfl⟩))

/-- A source that begins with no number has the same outcome behind zeros just when it is not
misread. -/
lemma sameOutcome_zeros_iff_of_apart {n : Nat} (hn : 0 < n) {cs : List Char}
    (apart : ∀ c ∈ cs.head?, isNumeric c = false) :
    SameOutcome (evaluateChars cs) (evaluateChars (List.replicate n '0' ++ cs)) ↔
      ¬Misread n cs := by
  have hbehind := evaluateChars_zeros_of_apart hn apart
  have hsame : SameOutcome (evaluateChars cs) (evaluateChars (List.replicate n '0' ++ cs)) ↔
      SameOutcome (TokenStream.ofChars cs).outcome
        (TokenStream.cons ⟨.number (.zeros n), 0⟩ (.ofChars cs)).outcome := by
    rw [hbehind, sameOutcome_mapError_iff, evaluateChars_eq_outcome]
  cases htokens : (TokenStream.ofChars cs).tokens with
  | nil =>
    rw [hsame, misread_iff_of_nil htokens]
    generalize TokenStream.ofChars cs = stream at htokens ⊢
    obtain ⟨tokens, ending⟩ := stream
    obtain rfl : tokens = [] := htokens
    cases ending with
    | complete length =>
      -- The zeros alone have a value.
      refine iff_of_false ?_ fun h => h ⟨length, rfl⟩
      have hread : Expr.ofStream?
          (TokenStream.cons ⟨.number (.zeros n), 0⟩ ⟨[], .complete length⟩) =
            .ok (.literal (Numeral.zeros n).value) := rfl
      have hvalue : (TokenStream.cons ⟨.number (.zeros n), 0⟩ ⟨[], .complete length⟩).outcome =
          .ok (.zero false) := by
        simp only [TokenStream.outcome, hread, Expr.run_eq_value, Expr.value, Numeral.value_zeros]
        rfl
      rw [hvalue]
      rintro ⟨⟩
    | broken position =>
      refine iff_of_true .errors ?_
      rintro ⟨length, hcomplete⟩
      cases hcomplete
  | cons token rest =>
    rw [misread_iff_of_cons htokens]
    obtain ⟨kind, position⟩ := token
    rcases kind.first_cases with hoperand | rfl | rfl | ⟨op, hsign, rfl⟩
    · have hno : ∀ op, kind ≠ .operator op := by
        rintro op rfl
        rcases hoperand with hopening | ⟨m, hnumber⟩
        · cases hopening
        · cases hnumber
      rw [hsame, TokenStream.outcome_cons_operand htokens hoperand, sameOutcome_iff_error]
      constructor
      · rintro h (⟨op, -, hkind, -⟩ | ⟨-, -, x, hx⟩)
        · exact hno op hkind
        · exact h x hx
      · intro h x hx
        exact h (Or.inr ⟨hoperand, apart, x, hx⟩)
    · rw [hsame, TokenStream.outcome_of_closing htokens, TokenStream.outcome_cons_closing htokens]
      refine iff_of_true .errors ?_
      rintro (⟨op, -, hkind, -⟩ | ⟨hopening | ⟨m, hnumber⟩, -⟩)
      · cases hkind
      · cases hopening
      · cases hnumber
    · refine iff_of_true (hsame.mpr ?_) ?_
      · exact TokenStream.sameOutcome_of_minus htokens (Numeral.value_zeros n) 0
      · rintro (⟨op, hsign, hkind, -⟩ | ⟨hopening | ⟨m, hnumber⟩, -⟩)
        · cases hkind
          exact hsign rfl
        · cases hopening
        · cases hnumber
    · rw [evaluateChars_eq_outcome, TokenStream.outcome_of_operator htokens hsign,
        sameOutcome_error_iff]
      constructor
      · rintro h (⟨op', -, -, x, hx⟩ | ⟨hopening | ⟨m, hnumber⟩, -⟩)
        · exact h x hx
        · cases hopening
        · cases hnumber
      · intro h x hx
        exact h (Or.inl ⟨op, hsign, rfl, x, hx⟩)

/-- A source has the same outcome behind zeros just when it is not misread behind them. -/
theorem sameOutcome_zeros_iff {n : Nat} (hn : 0 < n) (cs : List Char) :
    SameOutcome (evaluateChars cs) (evaluateChars (List.replicate n '0' ++ cs)) ↔
      ¬Misread n cs := by
  cases cs with
  | nil => exact sameOutcome_zeros_iff_of_apart hn nofun
  | cons c cs =>
    cases hc : isNumeric c with
    | true =>
      refine iff_of_true ?_ (not_misread_of_numeric n hc)
      rw [evaluateChars_zeros_of_numeric hn hc, sameOutcome_mapError_iff]
      exact sameOutcome_self _
    | false =>
      refine sameOutcome_zeros_iff_of_apart hn fun d hd => ?_
      cases hd
      exact hc

end Calculator
