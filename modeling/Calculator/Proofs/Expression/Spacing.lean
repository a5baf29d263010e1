import Calculator.Proofs.Expression.Relocation
import Calculator.Proofs.Expression.Scanning

/-!
# Spacing between tokens

A blank that is put into a source moves what stands behind it by one place and changes nothing else,
unless it is put between two characters of a number: the tokens are the same at their moved
positions (`TokenStream.ofChars_spaced`), so the source has the same value, or the same error at its
moved position (`evaluate_spaced`).
-/

namespace Calculator

namespace TokenStream

/-! ### Streams at other positions -/

/-- A first token is moved with the stream. -/
lemma cons_relocate (f : Nat → Nat) (token : Token) (stream : TokenStream) :
    (cons token stream).relocate f = cons (token.relocate f) (stream.relocate f) := rfl

/-- A text that begins elsewhere has its stream at positions that are moved as far. -/
lemma scan_relocate {f : Nat → Nat} {offset : Nat} (cs : List Char) (position : Nat)
    (h : ∀ place, position ≤ place → f place = place + offset) :
    scan (position + offset) cs = (scan position cs).relocate f := by
  induction cs using scan_induction generalizing position with
  | nil =>
    rw [scan, scan, ← h position (Nat.le_refl _)]
    rfl
  | spacing c rest hc ih =>
    have hrest := ih (position + 1) fun place hplace => h place (by omega)
    rw [scan_spacing _ hc, scan_spacing _ hc, ← hrest, Nat.add_right_comm]
  | number c rest after n hc hfirst hsplit ih =>
    have hrest := ih (position + n.text.length) fun place hplace => h place (by omega)
    rw [scan_number _ hc hfirst hsplit, scan_number _ hc hfirst hsplit, cons_relocate, ← hrest,
      Nat.add_right_comm, ← h position (Nat.le_refl _)]
    rfl
  | brokenNumber c rest offset' hc hfirst =>
    rw [scan_broken_number _ hc hfirst, scan_broken_number _ hc hfirst, Nat.add_right_comm,
      ← h _ (Nat.le_add_right position offset')]
    rfl
  | sign c rest kind hnumeric hkind ih =>
    have hrest := ih (position + 1) fun place hplace => h place (by omega)
    rw [scan_sign _ hnumeric hkind, scan_sign _ hnumeric hkind, cons_relocate, ← hrest,
      Nat.add_right_comm, ← h position (Nat.le_refl _)]
    rfl
  | stranger c rest hspacing hnumeric hkind =>
    rw [scan_stranger _ hspacing hnumeric hkind, scan_stranger _ hspacing hnumeric hkind,
      ← h position (Nat.le_refl _)]
    rfl

/-- A text whose positions are not moved has its tokens where they were, and breaks off where it
did. -/
lemma scan_relocate_of_lt {f : Nat → Nat} (cs : List Char)
    (h : ∀ place < cs.length, f place = place) :
    (scan 0 cs).tokens.map (Token.relocate f) = (scan 0 cs).tokens ∧
      ∀ position, (scan 0 cs).ending = .broken position → f position = position := by
  have hfixed : ∀ token ∈ (scan 0 cs).tokens, token.relocate f = token := by
    intro token hmem
    have hlt : token.position < cs.length := (getElem?_of_mem_ofChars hmem).1
    rw [Token.relocate, h _ hlt]
  constructor
  · rw [List.map_congr_left hfixed, List.map_id']
  · intro position hbroken
    obtain ⟨before, c, after, rfl, rfl, -⟩ := offends_of_scan hbroken
    refine h _ ?_
    simp only [List.length_append, List.length_cons]
    omega

/-- What comes behind a text that is not moved is moved alone. -/
lemma append_relocate {f : Nat → Nat} (cs : List Char) (second : TokenStream)
    (h : ∀ place < cs.length, f place = place) :
    ((scan 0 cs).append second).relocate f = (scan 0 cs).append (second.relocate f) := by
  obtain ⟨htokens, hbroken⟩ := scan_relocate_of_lt cs h
  cases hending : (scan 0 cs).ending with
  | complete length =>
    rw [append_of_complete hending, append_of_complete hending]
    simp only [relocate, List.map_append, htokens]
  | broken position =>
    rw [append_of_broken hending, append_of_broken hending, relocate, htokens, hending,
      Ending.relocate, hbroken position hending, ← hending]

end TokenStream

/-! ### A blank in a source -/

/-- Where a position of a source lies when a character is put in at a place. -/
def behind (place position : Nat) : Nat := if position < place then position else position + 1

/-- A source with a character put in at a place. -/
def spaced (source : String) (place : Nat) (c : Char) : String :=
  .ofList (source.toList.take place ++ c :: source.toList.drop place)

/-- A blank between two texts of which no number runs over the seam moves the second one, and leaves
the tokens as they are. -/
theorem TokenStream.ofChars_spaced {before after : List Char} {c : Char}
    (apart : Apart before after) (spacing : isSpacing c = true) :
    ofChars (before ++ c :: after) =
      (ofChars (before ++ after)).relocate (behind before.length) := by
  have hnumeric : isNumeric c = false := by
    cases hc : isNumeric c with
    | false => rfl
    | true => cases (isSpacing_eq_false (Or.inl hc)).symm.trans spacing
  have hbefore : ∀ place < before.length, behind before.length place = place :=
    fun place hplace => if_pos hplace
  have hafter : ∀ place, before.length ≤ place → behind before.length place = place + 1 :=
    fun place hplace => if_neg (Nat.not_lt.mpr hplace)
  calc ofChars (before ++ c :: after)
      = (scan 0 before).append (scan (0 + before.length) (c :: after)) :=
        scan_append (apart_cons before hnumeric after) 0
    _ = (scan 0 before).append (scan (before.length + 1) after) := by
        rw [Nat.zero_add, scan_spacing _ spacing]
    _ = (scan 0 before).append ((scan before.length after).relocate (behind before.length)) := by
        rw [scan_relocate after before.length hafter]
    _ = ((scan 0 before).append (scan before.length after)).relocate (behind before.length) :=
        (append_relocate before _ hbefore).symm
    _ = (ofChars (before ++ after)).relocate (behind before.length) := by
        rw [ofChars, scan_append apart 0, Nat.zero_add]

/-- A blank that is put into a source, but not between two characters of a number, leaves its value
as it is; or it leaves its error, whose position is moved if it is not in front of the blank. -/
theorem evaluate_spaced {source : String} {place : Nat} {c : Char}
    (within : place ≤ source.length)
    (apart : Apart (source.toList.take place) (source.toList.drop place))
    (spacing : isSpacing c = true) :
    evaluate (spaced source place c) =
      (evaluate source).mapError (Error.relocate (behind place)) := by
  have hlength : (source.toList.take place).length = place := by
    rw [List.length_take, String.length_toList, Nat.min_eq_left within]
  have hstream := TokenStream.ofChars_spaced apart spacing
  rw [hlength, List.take_append_drop] at hstream
  rw [evaluate, spaced, String.toList_ofList]
  exact evaluateChars_of_relocate hstream

/-- A tabulator in front of a parenthesis that is not closed moves the error of the parenthesis. -/
theorem evaluate_spaced_unclosed :
    4 ≤ "2*3+(4".length ∧ Apart ("2*3+(4".toList.take 4) ("2*3+(4".toList.drop 4) ∧
      isSpacing '\t' = true ∧
      evaluate (spaced "2*3+(4" 4 '\t') = .error (.placed .parsing .unmatchedParenthesis 5) := by
  have hwithin : 4 ≤ "2*3+(4".length := by decide
  have hapart : Apart ("2*3+(4".toList.take 4) ("2*3+(4".toList.drop 4) := by
    have hdrop : "2*3+(4".toList.drop 4 = '(' :: ['4'] := by decide
    rw [hdrop]
    exact apart_cons _ (by decide) _
  have hspacing : isSpacing '\t' = true := by decide
  have herror : evaluate "2*3+(4" = .error (.placed .parsing .unmatchedParenthesis 4) := by
    decide +kernel
  refine ⟨hwithin, hapart, hspacing, ?_⟩
  rw [evaluate_spaced hwithin hapart hspacing, herror]
  rfl

end Calculator
