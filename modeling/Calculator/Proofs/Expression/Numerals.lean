import Calculator.Expression.Evaluation
import Calculator.Decimal.Notation
import Calculator.Proofs.Expression.Scanning
import Calculator.Proofs.Expression.Values

/-!
# Numerals as sources

A numeral is scanned as one token, whatever stands behind it that does not go on with it
(`TokenStream.scan_text_append`). So a numeral is a source of its own value, also behind a minus
sign (`evaluateChars_text`), and a numeral with a strange character behind it is refused at that
character (`evaluateChars_broken`).
-/

namespace Calculator

namespace Numeral

/-- A numeral of digits that has a digit. -/
structure IsProper (n : Numeral) : Prop where
  whole : ∀ c ∈ n.whole, c.isDigit = true
  fraction : ∀ c ∈ n.fraction, c.isDigit = true
  digit : n.whole ≠ [] ∨ n.fraction ≠ []

/-- A numeral ends with the source. -/
lemma endsBefore_nil (n : Numeral) : n.EndsBefore [] := fun _ hd => nomatch hd

/-- A numeral ends before a character that stands in no number. -/
lemma endsBefore_cons (n : Numeral) {c : Char} (hc : isNumeric c = false) (rest : List Char) :
    n.EndsBefore (c :: rest) := by
  intro d hd
  cases hd
  have hnumeric : c.isDigit = false ∧ c ≠ '.' := by simpa [isNumeric] using hc
  exact ⟨hnumeric.1, fun _ => hnumeric.2⟩

/-- Digits end where no digit follows. -/
lemma digits_append_eq {ds rest : List Char} (h : ∀ c ∈ ds, c.isDigit = true)
    (hstop : ∀ d ∈ rest.head?, d.isDigit = false) :
    (ds ++ rest).takeWhile Char.isDigit = ds ∧ (ds ++ rest).dropWhile Char.isDigit = rest := by
  have htake : ds.takeWhile Char.isDigit = ds := List.takeWhile_eq_self_iff.mpr h
  have hdrop : ds.dropWhile Char.isDigit = [] := List.dropWhile_eq_nil_iff.mpr h
  obtain ⟨hwhole, hrest⟩ := @digits_append ds rest fun _ => hstop
  rw [hwhole, hrest, htake, hdrop]
  exact ⟨rfl, rfl⟩

/-- The digits of a proper numeral in front of the point, and what stands behind them. -/
lemma IsProper.digits_text_append {n : Numeral} (h : n.IsProper) {rest : List Char}
    (ends : n.EndsBefore rest) :
    (n.text ++ rest).takeWhile Char.isDigit = n.whole ∧
      (n.text ++ rest).dropWhile Char.isDigit =
        if n.fraction = [] then rest else '.' :: (n.fraction ++ rest) := by
  by_cases hfraction : n.fraction = []
  · rw [text, if_pos hfraction, if_pos hfraction]
    exact digits_append_eq h.whole fun d hd => (ends d hd).1
  · rw [text, if_neg hfraction, if_neg hfraction, List.append_assoc, List.cons_append]
    exact digits_append_eq h.whole fun d hd => by cases hd; rfl

/-- No point stands behind the digits of a numeral without a fraction. -/
lemma IsProper.no_point {n : Numeral} (h : n.IsProper) {rest : List Char}
    (ends : n.EndsBefore rest) (hfraction : n.fraction = []) (after : List Char) :
    (n.text ++ rest).dropWhile Char.isDigit ≠ '.' :: after := by
  intro hafter
  rw [(h.digits_text_append ends).2, if_pos hfraction] at hafter
  exact (ends '.' (by rw [hafter]; rfl)).2 hfraction rfl

/-- A proper numeral is the number at the beginning of a text if it ends before what follows. -/
lemma first_text_append {n : Numeral} (h : n.IsProper) {rest : List Char}
    (ends : n.EndsBefore rest) : first (n.text ++ rest) = .ok n := by
  obtain ⟨hwhole, hdrop⟩ := h.digits_text_append ends
  by_cases hfraction : n.fraction = []
  · rw [first_of_no_point (h.no_point ends hfraction), hwhole, ← hfraction]
  · rw [if_neg hfraction] at hdrop
    obtain ⟨hdigits, -⟩ := digits_append_eq h.fraction fun d hd => (ends d hd).1
    rw [first_of_point hdrop, hdigits, if_neg hfraction, hwhole]

/-- The text of a proper numeral begins with a digit or a point. -/
lemma exists_text_eq_cons {n : Numeral} (h : n.IsProper) :
    ∃ c rest, n.text = c :: rest ∧ isNumeric c = true := by
  obtain ⟨whole, fraction⟩ := n
  cases whole with
  | nil =>
    have hfraction : fraction ≠ [] := h.digit.resolve_left (by simp)
    exact ⟨'.', fraction, by simp [text, hfraction], rfl⟩
  | cons c whole =>
    have hdigit : c.isDigit = true := h.whole c List.mem_cons_self
    have hnumeric : isNumeric c = true := by simp [isNumeric, hdigit]
    by_cases hfraction : fraction = []
    · exact ⟨c, whole, by simp [text, hfraction], hnumeric⟩
    · exact ⟨c, whole ++ '.' :: fraction, by simp [text, hfraction], hnumeric⟩

end Numeral

namespace TokenStream

/-- A proper numeral is a token if it ends before what follows, where the scanning goes on. -/
lemma scan_text_append {n : Numeral} (h : n.IsProper) {rest : List Char}
    (ends : n.EndsBefore rest) (position : Nat) :
    scan position (n.text ++ rest) =
      cons ⟨.number n, position⟩ (scan (position + n.text.length) rest) := by
  obtain ⟨c, text, htext, hnumeric⟩ := Numeral.exists_text_eq_cons h
  have hfirst := Numeral.first_text_append h ends
  have hsplit : c :: (text ++ rest) = n.text ++ rest := by rw [htext, List.cons_append]
  rw [← hsplit] at hfirst ⊢
  exact scan_number position hnumeric hfirst hsplit

/-- A proper numeral alone is one token. -/
lemma scan_text {n : Numeral} (h : n.IsProper) (position : Nat) :
    scan position n.text = ⟨[⟨.number n, position⟩], .complete (position + n.text.length)⟩ := by
  have hscan := scan_text_append h n.endsBefore_nil position
  rw [List.append_nil, scan] at hscan
  exact hscan

/-- A minus sign is a token. -/
lemma scan_minus (position : Nat) (cs : List Char) :
    scan position ('-' :: cs) = cons ⟨.operator .minus, position⟩ (scan (position + 1) cs) :=
  scan_sign position (by decide) rfl cs

end TokenStream

/-! ### Values -/

/-- An expression that is read and has a value is a source of that value. -/
lemma evaluateChars_eq_finite? {cs : List Char} {expr : Expr} {x : Double}
    (hexpr : Expr.ofChars? cs = .ok expr) (hvalue : expr.value = .ok x) :
    evaluateChars cs = finite? x := by
  simp only [evaluateChars, hexpr, Expr.run_eq_value, hvalue]

/-- A numeral is a source of its value, and of the opposite value behind a minus sign. -/
theorem evaluateChars_text {n : Numeral} (h : n.IsProper) (negative : Bool) :
    evaluateChars (Double.signText negative n.text) =
      finite? (if negative then -n.value else n.value) := by
  cases negative with
  | false =>
    have hexpr : Expr.ofChars? n.text = .ok (.literal n.value) := by
      rw [Expr.ofChars?, TokenStream.ofChars, TokenStream.scan_text h]
      rfl
    exact evaluateChars_eq_finite? hexpr rfl
  | true =>
    have hexpr : Expr.ofChars? ('-' :: n.text) = .ok (.negation (.literal n.value)) := by
      rw [Expr.ofChars?, TokenStream.ofChars, TokenStream.scan_minus, TokenStream.scan_text h]
      rfl
    exact evaluateChars_eq_finite? hexpr rfl

/-- A numeral with a character behind it that begins no token is refused at that character. -/
theorem evaluateChars_broken {n : Numeral} (h : n.IsProper) (negative : Bool) {c : Char}
    (hspacing : isSpacing c = false) (hnumeric : isNumeric c = false)
    (hkind : TokenKind.ofChar? c = none) (rest : List Char) :
    evaluateChars (Double.signText negative (n.text ++ c :: rest)) =
      .error (.placed .lexing .invalidCharacter (Double.signText negative n.text).length) := by
  have hbroken : ∀ position, TokenStream.scan position (n.text ++ c :: rest) =
      ⟨[⟨.number n, position⟩], .broken (position + n.text.length)⟩ := by
    intro position
    rw [TokenStream.scan_text_append h (n.endsBefore_cons hnumeric rest),
      TokenStream.scan_stranger _ hspacing hnumeric hkind, TokenStream.cons]
  have hstream : ∀ {cs : List Char} {e : Error}, Expr.ofChars? cs = .error e →
      evaluateChars cs = .error e := fun hcs => by simp only [evaluateChars, hcs]
  refine hstream ?_
  cases negative with
  | false =>
    rw [Expr.ofChars?, TokenStream.ofChars, Double.signText, if_neg (by decide), hbroken]
    exact congrArg _ (congrArg _ (Nat.zero_add _))
  | true =>
    rw [Expr.ofChars?, TokenStream.ofChars, Double.signText, if_pos rfl, TokenStream.scan_minus,
      hbroken]
    exact congrArg _ (congrArg _ (Nat.add_comm _ _))

end Calculator
