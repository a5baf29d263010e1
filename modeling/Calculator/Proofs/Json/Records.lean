import Calculator.Json.Reading
import Calculator.Json.Writing
import Calculator.Proofs.Text.Utf8
import Mathlib.Tactic.Lemma

/-!
# Records are read back

Lists of records of texts are read back from the text that writes them (`ofChars_writtenRecords`).

The reading follows the writing: units between quotes, members on their lines, records, and the
array of them. Each layer is read in front of an arbitrary rest. The bound on the number of
steps is met because every record, and every member of it, takes up a part of the text.
-/

namespace Calculator.Json

/-! ### Units and texts -/

/-- Four hexadecimal digits. -/
lemma hex_four (n : Nat) :
    Text.hex 4 n = [Text.hexDigit (n / 16 / 16 / 16 % 16), Text.hexDigit (n / 16 / 16 % 16),
      Text.hexDigit (n / 16 % 16), Text.hexDigit (n % 16)] := rfl

/-- Four hexadecimal digits are read as their number. -/
lemma hexFour?_hex {n : Nat} (h : n < 0x10000) :
    Text.hexFour? (Text.hexDigit (n / 16 / 16 / 16 % 16)) (Text.hexDigit (n / 16 / 16 % 16))
      (Text.hexDigit (n / 16 % 16)) (Text.hexDigit (n % 16)) = some n := by
  have hdigit : ∀ m, Text.hexValue? (Text.hexDigit (m % 16)) = some (m % 16) :=
    fun m => Text.hexValue?_hexDigit (Nat.mod_lt m (by decide))
  have hvalue : ((n / 16 / 16 / 16 % 16 * 16 + n / 16 / 16 % 16) * 16 + n / 16 % 16) * 16 +
      n % 16 = n := by omega
  simp only [Text.hexFour?, hdigit, Option.bind_eq_bind, Option.bind_some, hvalue, Option.pure_def]

/-- The letter of an escape is read as the character that it stands for, and it is no `u`. -/
lemma escape?_of_letterEscape? {c letter : Char} (h : letterEscape? c = some letter) :
    escape? letter = some c ∧ letter ≠ 'u' := by
  unfold letterEscape? at h
  split at h <;> cases h <;> exact ⟨rfl, by decide⟩

/-- A character without an escape is no quote and no backslash. -/
lemma ne_of_letterEscape?_eq_none {c : Char} (h : letterEscape? c = none) : c ≠ '"' ∧ c ≠ '\\' := by
  constructor <;> rintro rfl <;> cases h

/-- A closing quote ends a text. -/
lemma readText_quote (before : CodeUnits) (rest : List Char) :
    readText before ('"' :: rest) = some (before.reverse, rest) := by
  rw [readText]

/-- An escape by number is read as a unit. -/
lemma readText_number (before : CodeUnits) {a b c d : Char} {n : Nat}
    (h : Text.hexFour? a b c d = some n) (rest : List Char) :
    readText before ('\\' :: 'u' :: a :: b :: c :: d :: rest) =
      readText (.ofNat n :: before) rest := by
  simp only [readText, h]

/-- An escape by letter is read as the character that it stands for. -/
lemma readText_letter (before : CodeUnits) {letter c : Char} (hne : letter ≠ 'u')
    (h : escape? letter = some c) (rest : List Char) :
    readText before ('\\' :: letter :: rest) = readText (.ofNat c.toNat :: before) rest := by
  rw [readText]
  · simp only [h]
  · rintro a b c' d rest' rfl
    exact absurd rfl hne

/-- A character that needs no escape is read as its units. -/
lemma readText_plain (before : CodeUnits) {c : Char} (hquote : c ≠ '"') (hbackslash : c ≠ '\\')
    (hc : 0x20 ≤ c.toNat) (rest : List Char) :
    readText before (c :: rest) = readText ((CodeUnits.ofChar c).reverse ++ before) rest := by
  have hplain : ¬(c = '\\' ∨ c.toNat < 0x20) := by
    rintro (heq | hlt)
    · exact hbackslash heq
    · omega
  rw [readText, if_neg hplain]
  · exact hquote
  · intro a b c' d rest' heq
    exact absurd heq hbackslash
  · intro letter rest' heq
    exact absurd heq hbackslash

/-- A unit is read back, whatever comes behind it. -/
lemma readText_writtenUnit (before : CodeUnits) (unit : UInt16) (rest : List Char) :
    readText before (writtenUnit unit ++ rest) = readText (unit :: before) rest := by
  have hescape : readText before (unitEscape unit ++ rest) = readText (unit :: before) rest := by
    rw [unitEscape, hex_four]
    simp only [List.cons_append, List.nil_append]
    rw [readText_number before (hexFour?_hex unit.toNat_lt), UInt16.ofNat_toNat]
  unfold writtenUnit
  split
  · next hsmall =>
    have hnat : (Char.ofNat unit.toNat).toNat = unit.toNat :=
      Text.toNat_ofNat_of_isValidChar (Or.inl (by omega))
    simp only []
    split
    · next letter hletter =>
      obtain ⟨hread, hne⟩ := escape?_of_letterEscape? hletter
      rw [List.cons_append, List.cons_append, List.nil_append, readText_letter before hne hread,
        hnat, UInt16.ofNat_toNat]
    · next hletter =>
      obtain ⟨hquote, hbackslash⟩ := ne_of_letterEscape?_eq_none hletter
      split
      · next hprintable =>
        have hunits : CodeUnits.ofChar (Char.ofNat unit.toNat) = [unit] := by
          rw [CodeUnits.ofChar, hnat, if_pos (by omega), UInt16.ofNat_toNat]
        rw [List.cons_append, List.nil_append,
          readText_plain before hquote hbackslash (by omega), hunits]
        rfl
      · exact hescape
  · exact hescape

/-- Units are read back up to the closing quote. -/
lemma readText_units (before units : CodeUnits) (rest : List Char) :
    readText before (units.flatMap writtenUnit ++ '"' :: rest) =
      some (before.reverse ++ units, rest) := by
  induction units generalizing before with
  | nil => rw [List.flatMap_nil, List.nil_append, readText_quote, List.append_nil]
  | cons unit units ih =>
    rw [List.flatMap_cons, List.append_assoc, readText_writtenUnit, ih, List.reverse_cons,
      List.append_assoc, List.singleton_append]

/-- A text is read back behind its opening quote. -/
lemma readText_writtenText (s : CodeUnits) (rest : List Char) :
    ∃ tail, writtenText s ++ rest = '"' :: tail ∧ readText [] tail = some (s, rest) := by
  refine ⟨s.flatMap writtenUnit ++ '"' :: rest, ?_, readText_units [] s rest⟩
  simp [writtenText]

/-- A text is a value. -/
lemma readValue_writtenText (steps levels : Nat) (s : CodeUnits) (rest : List Char) :
    readValue (steps + 1) levels (writtenText s ++ rest) = .ok (.text s, rest) := by
  obtain ⟨tail, htext, hread⟩ := readText_writtenText s rest
  simp only [htext, readValue, hread]

/-! ### Blanks -/

/-- A blank is skipped. -/
lemma skip_cons_space {c : Char} (h : isSpace c = true) (cs : List Char) :
    skip (c :: cs) = skip cs := by
  simp [skip, h]

/-- Nothing is skipped in front of another character. -/
lemma skip_cons {c : Char} (h : isSpace c = false) (cs : List Char) : skip (c :: cs) = c :: cs := by
  simp [skip, h]

/-! ### Members -/

/-- The members of the object that a record is written as. -/
def membersOnto (before : List (CodeUnits × Json)) (record : List (String × CodeUnits)) :
    List (CodeUnits × Json) :=
  record.foldl (fun members m => putMember (CodeUnits.ofString m.1) (.text m.2) members) before

/-- A member is written from its key on, behind four blanks. -/
lemma skip_writtenMember (m : String × CodeUnits) (rest : List Char) :
    skip (writtenMember m ++ rest) =
      writtenText (CodeUnits.ofString m.1) ++ ':' :: ' ' :: (writtenText m.2 ++ rest) := by
  simp only [writtenMember, List.cons_append, List.append_assoc]
  rw [skip_cons_space rfl, skip_cons_space rfl, skip_cons_space rfl, skip_cons_space rfl,
    writtenText, List.cons_append, skip_cons rfl]

/-- A member is read behind its indentation, and what follows it decides how reading goes on. -/
lemma readMembers_writtenMember (steps levels : Nat) (before : List (CodeUnits × Json))
    (m : String × CodeUnits) (rest : List Char) :
    readMembers (steps + 2) levels before (skip (writtenMember m ++ rest)) =
      match skip rest with
      | ',' :: rest => readMembers (steps + 1) levels (membersOnto before [m]) (skip rest)
      | '\x7d' :: rest => .ok (.object (membersOnto before [m]), rest)
      | _ => .error .malformed := by
  obtain ⟨tail, htail, hkey⟩ := readText_writtenText (CodeUnits.ofString m.1)
    (':' :: ' ' :: (writtenText m.2 ++ rest))
  have hcolon : skip (':' :: ' ' :: (writtenText m.2 ++ rest)) =
      ':' :: ' ' :: (writtenText m.2 ++ rest) := skip_cons rfl _
  have hvalue : skip (' ' :: (writtenText m.2 ++ rest)) = writtenText m.2 ++ rest := by
    rw [skip_cons_space rfl, writtenText, List.cons_append, skip_cons rfl]
  rw [skip_writtenMember, htail]
  simp only [readMembers, hkey, hcolon, hvalue, readValue_writtenText]
  rfl

/-- Members on their lines are read up to the closing brace. -/
lemma readMembers_writtenItems (steps levels : Nat) (before : List (CodeUnits × Json))
    (record : List (String × CodeUnits)) (rest : List Char) (hne : record ≠ [])
    (hsteps : record.length + 1 ≤ steps) :
    readMembers steps levels before
        (skip (writtenItems (record.map writtenMember) ++ '\n' :: ' ' :: ' ' :: '\x7d' :: rest)) =
      .ok (.object (membersOnto before record), rest) := by
  induction record generalizing steps before with
  | nil => exact absurd rfl hne
  | cons m record ih =>
    obtain ⟨steps, rfl⟩ : ∃ n, steps = n + 2 := ⟨steps - 2, by simp at hsteps; omega⟩
    cases record with
    | nil =>
      have hend : skip ('\n' :: ' ' :: ' ' :: '\x7d' :: rest) = '\x7d' :: rest := by
        rw [skip_cons_space rfl, skip_cons_space rfl, skip_cons_space rfl, skip_cons rfl]
      rw [List.map_singleton, writtenItems, readMembers_writtenMember, hend]
      rfl
    | cons next record =>
      rw [List.map_cons, List.map_cons, writtenItems, List.append_assoc, readMembers_writtenMember,
        List.cons_append, skip_cons rfl]
      simp only []
      rw [List.cons_append, skip_cons_space rfl, ← List.map_cons]
      exact ih (steps + 1) (membersOnto before [m]) (by simp) (by simp at hsteps ⊢; omega)

/-! ### Records -/

/-- The object that a record is written as. -/
def ofRecord (record : List (String × CodeUnits)) : Json := .object (membersOnto [] record)

/-- A record is written from its opening brace on, behind two blanks. -/
lemma skip_writtenRecord (record : List (String × CodeUnits)) (rest : List Char) :
    skip (writtenRecord record ++ rest) =
      '\x7b' :: '\n' :: (writtenItems (record.map writtenMember) ++
        '\n' :: ' ' :: ' ' :: '\x7d' :: rest) := by
  simp only [writtenRecord, List.cons_append, List.append_assoc, List.nil_append]
  rw [skip_cons_space rfl, skip_cons_space rfl, skip_cons rfl]

/-- The first member of a record begins with a quote. -/
lemma exists_skip_members {record : List (String × CodeUnits)} (hne : record ≠ [])
    (rest : List Char) :
    ∃ tail, skip (writtenItems (record.map writtenMember) ++ rest) = '"' :: tail := by
  have hmember : ∀ (m : String × CodeUnits) (rest : List Char),
      ∃ tail, skip (writtenMember m ++ rest) = '"' :: tail := by
    intro m rest
    obtain ⟨tail, htail, -⟩ := readText_writtenText (CodeUnits.ofString m.1)
      (':' :: ' ' :: (writtenText m.2 ++ rest))
    exact ⟨tail, by rw [skip_writtenMember, htail]⟩
  cases record with
  | nil => exact absurd rfl hne
  | cons m record =>
    cases record with
    | nil => exact hmember m rest
    | cons next record =>
      rw [List.map_cons, List.map_cons, writtenItems, List.append_assoc]
      exact hmember m _

/-- A record is an object. -/
lemma readValue_writtenRecord (steps levels : Nat) {record : List (String × CodeUnits)}
    (rest : List Char) (hne : record ≠ []) (hsteps : record.length + 1 ≤ steps) :
    readValue (steps + 1) (levels + 1) (skip (writtenRecord record ++ rest)) =
      .ok (ofRecord record, rest) := by
  have hread := readMembers_writtenItems steps levels [] record rest hne hsteps
  obtain ⟨tail, htail⟩ := exists_skip_members hne ('\n' :: ' ' :: ' ' :: '\x7d' :: rest)
  rw [skip_writtenRecord]
  simp only [readValue, skip_cons_space (show isSpace '\n' = true from rfl)]
  rw [htail] at hread ⊢
  exact hread

/-- An array that does not end at once is read by its elements. -/
lemma readValue_array (steps levels : Nat) {cs tail : List Char} {c : Char}
    (h : skip cs = c :: tail) (hc : c ≠ ']') :
    readValue (steps + 1) (levels + 1) ('[' :: cs) = readElements steps levels [] (skip cs) := by
  rw [readValue, h]
  simp [hc]

/-- Records on their lines are read up to the closing bracket. -/
lemma readElements_writtenItems (steps levels : Nat) (before : List Json)
    (records : List (List (String × CodeUnits))) (rest : List Char) (hne : records ≠ [])
    (hsteps : ∀ record ∈ records, record ≠ [] ∧ records.length + record.length + 2 ≤ steps) :
    readElements steps (levels + 1) before
        (skip (writtenItems (records.map writtenRecord) ++ '\n' :: ']' :: rest)) =
      .ok (.array (before.reverse ++ records.map ofRecord), rest) := by
  induction records generalizing steps before with
  | nil => exact absurd rfl hne
  | cons record records ih =>
    obtain ⟨hrecord, hfirst⟩ := hsteps record List.mem_cons_self
    obtain ⟨steps, rfl⟩ : ∃ n, steps = n + 2 := ⟨steps - 2, by omega⟩
    rw [List.length_cons] at hfirst
    cases records with
    | nil =>
      have hend : skip ('\n' :: ']' :: rest) = ']' :: rest := by
        rw [skip_cons_space rfl, skip_cons rfl]
      rw [List.map_singleton, writtenItems]
      simp only [readElements, hend, List.reverse_cons, List.map_singleton,
        readValue_writtenRecord steps levels _ hrecord (by simp at hfirst; omega)]
    | cons next records =>
      rw [List.map_cons, List.map_cons, writtenItems, List.append_assoc]
      rw [readElements, readValue_writtenRecord steps levels _ hrecord (by simp at hfirst; omega),
        List.cons_append, List.cons_append]
      simp only [skip_cons (show isSpace ',' = false from rfl),
        skip_cons_space (show isSpace '\n' = true from rfl)]
      rw [← List.map_cons, ih (steps + 1) (ofRecord record :: before) (by simp) ?_]
      · simp
      · intro other hmem
        obtain ⟨hother, hbound⟩ := hsteps other (List.mem_cons_of_mem _ hmem)
        refine ⟨hother, ?_⟩
        simp only [List.length_cons] at hbound ⊢
        omega

/-! ### Whole texts -/

/-- Items take up at least one character each, up to one. -/
lemma length_le_writtenItems (items : List (List Char)) :
    items.length ≤ (writtenItems items).length + 1 := by
  match items with
  | [] => exact Nat.zero_le _
  | [item] => exact Nat.le_add_left _ _
  | item :: next :: rest =>
    have ih := length_le_writtenItems (next :: rest)
    simp only [writtenItems, List.length_append, List.length_cons] at ih ⊢
    omega

/-- An item is no longer than all of them. -/
lemma length_le_writtenItems_of_mem {items : List (List Char)} {item : List Char}
    (h : item ∈ items) : item.length ≤ (writtenItems items).length := by
  match items with
  | [only] =>
    rw [List.mem_singleton.mp h]
    exact Nat.le_refl _
  | first :: next :: rest =>
    simp only [writtenItems, List.length_append, List.length_cons]
    rcases List.mem_cons.mp h with rfl | h
    · omega
    · have ih := length_le_writtenItems_of_mem h
      omega

/-- A record is longer than the number of its members. -/
lemma length_le_writtenRecord (record : List (String × CodeUnits)) :
    record.length ≤ (writtenRecord record).length := by
  have h := length_le_writtenItems (record.map writtenMember)
  simp only [writtenRecord, List.length_cons, List.length_append, List.length_map] at h ⊢
  omega

/-- Records that have members are read back from the text that writes them. -/
theorem ofChars_writtenRecords (records : List (List (String × CodeUnits)))
    (hne : ∀ record ∈ records, record ≠ []) :
    ofChars (writtenRecords records) = .ok (.array (records.map ofRecord)) := by
  -- An array and the objects in it are two levels.
  have hlevels : deepestNesting = 986 + 1 + 1 := rfl
  unfold writtenRecords
  split
  · next hnil =>
    subst hnil
    rfl
  · next hrecords =>
    have hsteps : ∀ record ∈ records, record ≠ [] ∧ records.length + record.length + 2 ≤
        2 * (writtenItems (records.map writtenRecord)).length + 9 := by
      intro record hmem
      refine ⟨hne record hmem, ?_⟩
      have hall := length_le_writtenItems (records.map writtenRecord)
      have hone := length_le_writtenItems_of_mem (List.mem_map_of_mem (f := writtenRecord) hmem)
      have hmembers := length_le_writtenRecord record
      rw [List.length_map] at hall
      omega
    have hread := readElements_writtenItems _ 986 [] records [] hrecords hsteps
    have hbrace : ∃ tail, skip (writtenItems (records.map writtenRecord) ++ ['\n', ']']) =
        '\x7b' :: tail := by
      match records, hrecords with
      | [record], _ => exact ⟨_, skip_writtenRecord record _⟩
      | record :: next :: rest, _ =>
        rw [List.map_cons, List.map_cons, writtenItems, List.append_assoc]
        exact ⟨_, skip_writtenRecord record _⟩
    obtain ⟨tail, htail⟩ := hbrace
    have hlength : 2 * ('[' :: '\n' :: (writtenItems (records.map writtenRecord) ++
        ['\n', ']'])).length + 2 =
        2 * (writtenItems (records.map writtenRecord)).length + 9 + 1 := by
      simp only [List.length_cons, List.length_append, List.length_nil]
      omega
    have hspace := skip_cons_space (show isSpace '\n' = true from rfl)
      (writtenItems (records.map writtenRecord) ++ ['\n', ']'])
    rw [ofChars, hlength, hlevels, skip_cons rfl,
      readValue_array _ _ (hspace.trans htail) (by decide), hspace, hread]
    rfl

end Calculator.Json
