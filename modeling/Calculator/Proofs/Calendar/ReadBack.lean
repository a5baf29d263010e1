import Calculator.Calendar.Reading
import Calculator.Proofs.Decimal.ReadBack

/-!
# Reading recorded moments back

A moment that is recorded is read back (`Moment.ofChars?_recordedChars`), with its date, hour,
minute and second. The fraction of the second is not recorded, and an offset of less than a second
is read as none at all (`Moment.kept`).

The bytes of a recorded moment are read at fixed places. `Moment.Holds` says which characters stand
at a place, and each reader is described by what it finds there.
-/

namespace Calculator

/-! ### Padded digits -/

/-- A number below `10 ^ width` is padded to `width` digits. -/
lemma length_paddedDigits {width n : Nat} (hn : n < 10 ^ width) (hwidth : 0 < width) :
    (paddedDigits width n).length = width := by
  have hle : digitCount n ≤ width := by
    by_cases hzero : n = 0
    · rw [hzero, digitCount, if_pos (by decide)]
      exact hwidth
    · refine Nat.le_of_not_lt fun hlt => ?_
      exact absurd ((ten_pow_le_iff hzero width).mpr hlt) (Nat.not_le.mpr hn)
  rw [paddedDigits, List.length_append, List.length_replicate, length_digits]
  omega

namespace Moment

/-- Two digits are two characters. -/
lemma length_two {n : Nat} (hn : n < 100) : (two n).length = 2 :=
  length_paddedDigits hn (by decide)

/-! ### Characters at a place -/

/-- The characters that stand in the bytes from an index on. -/
def Holds (bytes : List Nat) (i : Nat) (cs : List Char) : Prop :=
  ∀ k c, cs[k]? = some c → byteAt bytes (i + k) = c.toNat

/-- Characters stand in their own bytes. -/
lemma holds_self (cs : List Char) : Holds (cs.map Char.toNat) 0 cs := by
  intro k c hc
  rw [Nat.zero_add, byteAt, List.getD_eq_getElem?_getD, List.getElem?_map, hc]
  rfl

/-- The first character stands at the index, and the others behind it. -/
lemma holds_cons {bytes : List Nat} {i : Nat} {c : Char} {cs : List Char} :
    Holds bytes i (c :: cs) ↔ byteAt bytes i = c.toNat ∧ Holds bytes (i + 1) cs := by
  constructor
  · intro h
    refine ⟨h 0 c rfl, fun k d hd => ?_⟩
    rw [Nat.add_assoc, Nat.add_comm 1]
    exact h (k + 1) d hd
  · rintro ⟨hfirst, hrest⟩ k d hd
    cases k with
    | zero =>
      cases hd
      exact hfirst
    | succ k =>
      rw [Nat.add_comm k, ← Nat.add_assoc]
      exact hrest k d hd

/-- The characters of a second text stand behind those of the first one. -/
lemma holds_append {bytes : List Nat} {i : Nat} {xs ys : List Char} :
    Holds bytes i (xs ++ ys) ↔ Holds bytes i xs ∧ Holds bytes (i + xs.length) ys := by
  induction xs generalizing i with
  | nil => simp [Holds]
  | cons x xs ih =>
    rw [List.cons_append, holds_cons, holds_cons, ih, List.length_cons, Nat.add_assoc,
      Nat.add_comm 1, and_assoc]

/-- The digits follow each other. -/
lemma toNat_of_isDigit {c : Char} (h : c.isDigit = true) :
    '0'.toNat ≤ c.toNat ∧ c.toNat ≤ '9'.toNat := by
  simp only [Char.isDigit, Bool.and_eq_true, decide_eq_true_eq] at h
  exact ⟨UInt32.le_iff_toNat_le.mp h.1, UInt32.le_iff_toNat_le.mp h.2⟩

/-- A digit that stands at an index is found there. -/
lemma digitAt_of_byteAt {bytes : List Nat} {i : Nat} {c : Char} (h : byteAt bytes i = c.toNat)
    (hc : c.isDigit = true) : digitAt bytes i = true := by
  rw [digitAt, h]
  exact decide_eq_true (toNat_of_isDigit hc)

/-- Digits that stand at an index are read as their number. -/
lemma numberAt?_of_holds {bytes : List Nat} {i : Nat} {ds : List Char} (h : Holds bytes i ds)
    (hds : ∀ c ∈ ds, c.isDigit = true) : numberAt? bytes i ds.length = some (digitsValue ds) := by
  have hall : ((List.range ds.length).map (i + ·)).all (digitAt bytes) = true := by
    rw [List.all_map, List.all_eq_true]
    intro k hk
    have hlt : k < ds.length := List.mem_range.mp hk
    exact digitAt_of_byteAt (h k ds[k] (List.getElem?_eq_getElem hlt))
      (hds _ (List.getElem_mem hlt))
  have hbytes : (List.range ds.length).map (fun k => byteAt bytes (i + k)) = ds.map Char.toNat := by
    refine List.ext_getElem (by simp) fun k hk hk' => ?_
    have hlt : k < ds.length := by simpa using hk
    rw [List.getElem_map, List.getElem_map, List.getElem_range]
    exact h k ds[k] (List.getElem?_eq_getElem hlt)
  have hvalue : ((List.range ds.length).map (i + ·)).foldl
      (fun n k => 10 * n + (byteAt bytes k - '0'.toNat)) 0 = digitsValue ds := by
    have hmap := congrArg (List.foldl (fun n b => 10 * n + (b - '0'.toNat)) 0) hbytes
    rw [List.foldl_map, List.foldl_map] at hmap
    rw [List.foldl_map]
    exact hmap
  rw [numberAt?, if_pos hall, hvalue]

/-- A padded number that stands at an index is read. -/
lemma numberAt?_padded {bytes : List Nat} {i width n : Nat}
    (h : Holds bytes i (paddedDigits width n)) (hn : n < 10 ^ width) (hwidth : 0 < width) :
    numberAt? bytes i width = some n := by
  have hread := numberAt?_of_holds h fun _ => Reading.isDigit_of_mem_paddedDigits
  rw [length_paddedDigits hn hwidth, Reading.digitsValue_paddedDigits] at hread
  exact hread

/-- A padded number begins with a digit. -/
lemma digitAt_padded {bytes : List Nat} {i width n : Nat}
    (h : Holds bytes i (paddedDigits width n)) : digitAt bytes i = true := by
  cases hds : paddedDigits width n with
  | nil => exact absurd hds (List.append_ne_nil_of_right_ne_nil _ (digits_ne_nil n))
  | cons d ds =>
    rw [hds] at h
    have hd : d ∈ paddedDigits width n := by
      rw [hds]
      exact List.mem_cons_self
    exact digitAt_of_byteAt (holds_cons.mp h).1 (Reading.isDigit_of_mem_paddedDigits hd)

/-- A character that stands at an index is found there. -/
lemma charAt_of_byteAt {bytes : List Nat} {i : Nat} {c : Char} (h : byteAt bytes i = c.toNat) :
    charAt bytes i c = true := decide_eq_true h

/-- A character that stands at an index is the only one there. -/
lemma charAt_of_ne {bytes : List Nat} {i : Nat} {c d : Char} (h : byteAt bytes i = c.toNat)
    (hne : c.toNat ≠ d.toNat) : charAt bytes i d = false := by
  rw [charAt, h]
  exact decide_eq_false hne

/-- A character above the digits does not stand where a digit stands. -/
lemma charAt_of_digitAt {bytes : List Nat} {i : Nat} {c : Char} (h : digitAt bytes i = true)
    (hc : '9'.toNat < c.toNat) : charAt bytes i c = false := by
  have hbounds : '0'.toNat ≤ byteAt bytes i ∧ byteAt bytes i ≤ '9'.toNat := of_decide_eq_true h
  exact decide_eq_false (by omega)

/-! ### Dates -/

/-- A month has at most 31 days. -/
lemma monthLength_le (year month : Nat) : Calendar.monthLength year month ≤ 31 := by
  unfold Calendar.monthLength
  split
  · split <;> decide
  all_goals decide

/-- A date with hyphens that stands at the beginning is read, and its end is found. -/
lemma dateOf?_of_holds {bytes : List Nat} (d : Date) (hlength : 10 < bytes.length)
    (hyear : Holds bytes 0 (paddedDigits 4 d.year)) (hhyphen : byteAt bytes 4 = '-'.toNat)
    (hmonth : Holds bytes 5 (two d.month)) (hhyphen' : byteAt bytes 7 = '-'.toNat)
    (hday : Holds bytes 8 (two d.day)) :
    dateEnd? bytes = some 10 ∧ dateOf? bytes 10 = some d := by
  have hweek : charAt bytes 5 'W' = false := charAt_of_digitAt (digitAt_padded hmonth) (by decide)
  have hfirst := charAt_of_byteAt hhyphen
  have hsecond := charAt_of_byteAt hhyphen'
  have hyearLt : d.year < 10000 := Nat.lt_succ_of_le d.year_mem.2
  have hmonthLt : d.month < 100 := Nat.lt_of_le_of_lt d.month_mem.2 (by decide)
  have hdayLt : d.day < 100 :=
    Nat.lt_of_le_of_lt (Nat.le_trans d.day_mem.2 (monthLength_le _ _)) (by decide)
  constructor
  · have hlong : ¬bytes.length < 7 := by omega
    have hlonger : bytes.length ≠ 7 := by omega
    simp only [dateEnd?, hlong, hlonger, hfirst, hweek, if_true, if_false, Bool.false_eq_true]
  · simp only [dateOf?, numberAt?_padded hyear hyearLt (by decide), hfirst, if_true, hweek,
      Bool.false_eq_true, if_false, numberAt?_padded hmonth hmonthLt (by decide), hsecond,
      not_true_eq_false, and_false, numberAt?_padded hday hdayLt (by decide), Option.bind_eq_bind,
      Option.bind_some, Date.of?_self]

/-! ### Clocks -/

/-- Two digits in front of a colon are read as a part, if another part has room behind them. -/
lemma partsOf?_colon {bytes : List Nat} {stop left i n : Nat} {colons? : Option Bool}
    {parts : List Nat} (hn : numberAt? bytes i 2 = some n)
    (hcolon : byteAt bytes (i + 2) = ':'.toNat) (hcolons : colons? ≠ some false)
    (hroom : i + 3 < stop) :
    partsOf? bytes stop (left + 1) colons? i parts =
      partsOf? bytes stop left (some true) (i + 3) (parts ++ [n]) := by
  have hat := charAt_of_byteAt hcolon
  have hgetD : colons?.getD true = true := by
    cases colons? with
    | none => rfl
    | some b => cases b <;> simp_all
  have hmore : ¬stop ≤ i + 3 := by omega
  simp only [partsOf?, hn, Option.bind_eq_bind, Option.bind_some, hat, hgetD, hmore, if_false,
    and_self, if_true]

/-- Two digits at the end are read as the last part. -/
lemma partsOf?_last {bytes : List Nat} {stop left i n : Nat} {colons? : Option Bool}
    {parts : List Nat} (hn : numberAt? bytes i 2 = some n) (hroom : stop ≤ i + 3) :
    partsOf? bytes stop (left + 1) colons? i parts =
      some (.ofParts (parts ++ [n]) 0 (byteAt bytes (i + 2) ≠ 0)) := by
  simp only [partsOf?, hn, Option.bind_eq_bind, Option.bind_some, hroom, if_true]
  rfl

/-- Two digits in front of a point are read as a part with a fraction behind it. -/
lemma partsOf?_point {bytes : List Nat} {stop left i n : Nat} {parts : List Nat}
    (hn : numberAt? bytes i 2 = some n) (hpoint : byteAt bytes (i + 2) = '.'.toNat)
    (hroom : i + 3 < stop) :
    partsOf? bytes stop (left + 1) (some true) i parts =
      fractionOf? bytes (i + 3) stop (parts ++ [n]) := by
  have hat := charAt_of_byteAt hpoint
  have hcolon : charAt bytes (i + 2) ':' = false := charAt_of_ne hpoint (by decide)
  have hmore : ¬stop ≤ i + 3 := by omega
  simp only [partsOf?, hn, Option.bind_eq_bind, Option.bind_some, hat, hcolon, hmore, if_false,
    Option.getD_some, Bool.false_eq_true, and_false, true_or, if_true]

/-- Six digits at the end of the bytes are read as a fraction. -/
lemma fractionOf?_of_holds {bytes : List Nat} {i f : Nat} (parts : List Nat)
    (h : Holds bytes i (paddedDigits 6 f)) (hf : f < 1000000) (hlength : bytes.length = i + 6) :
    fractionOf? bytes i (i + 6) parts = some (.ofParts parts f false) := by
  have hrest : bytes.drop (i + 6) = [] := List.drop_eq_nil_of_le (by omega)
  simp [fractionOf?, numberAt?_padded h hf, hrest]

/-- Two digits are read as a number. -/
lemma numberAt?_two {bytes : List Nat} {i n : Nat} (h : Holds bytes i (two n)) (hn : n < 100) :
    numberAt? bytes i 2 = some n := numberAt?_padded h hn (by decide)

/-- Hours and minutes are read. -/
lemma clockOf?_minutes {bytes : List Nat} {i hour minute : Nat}
    (h : Holds bytes i (two hour ++ ':' :: two minute)) (hhour : hour < 100)
    (hminute : minute < 100) :
    clockOf? bytes i (i + 5) = some ⟨hour, minute, 0, 0, byteAt bytes (i + 5) ≠ 0⟩ := by
  simp only [holds_append, holds_cons, length_two hhour] at h
  obtain ⟨hhours, hcolon, hminutes⟩ := h
  rw [clockOf?, partsOf?_colon (numberAt?_two hhours hhour) hcolon (by decide) (by omega),
    partsOf?_last (numberAt?_two hminutes hminute) (by omega)]
  rfl

/-- Hours, minutes and seconds are read. -/
lemma clockOf?_seconds {bytes : List Nat} {i hour minute second : Nat}
    (h : Holds bytes i (two hour ++ ':' :: (two minute ++ ':' :: two second)))
    (hhour : hour < 100) (hminute : minute < 100) (hsecond : second < 100) :
    clockOf? bytes i (i + 8) = some ⟨hour, minute, second, 0, byteAt bytes (i + 8) ≠ 0⟩ := by
  simp only [holds_append, holds_cons, length_two hhour, length_two hminute] at h
  obtain ⟨hhours, hcolon, hminutes, hcolon', hseconds⟩ := h
  rw [clockOf?, partsOf?_colon (numberAt?_two hhours hhour) hcolon (by decide) (by omega),
    partsOf?_colon (numberAt?_two hminutes hminute) hcolon' (by decide) (by omega),
    partsOf?_last (numberAt?_two hseconds hsecond) (by omega)]
  rfl

/-- Hours, minutes, seconds and microseconds are read at the end of the bytes. -/
lemma clockOf?_microseconds {bytes : List Nat} {i hour minute second micro : Nat}
    (h : Holds bytes i (two hour ++ ':' :: (two minute ++ ':' :: (two second ++
      '.' :: paddedDigits 6 micro))))
    (hhour : hour < 100) (hminute : minute < 100) (hsecond : second < 100)
    (hmicro : micro < 1000000) (hlength : bytes.length = i + 15) :
    clockOf? bytes i (i + 15) = some ⟨hour, minute, second, micro, false⟩ := by
  simp only [holds_append, holds_cons, length_two hhour, length_two hminute,
    length_two hsecond] at h
  obtain ⟨hhours, hcolon, hminutes, hcolon', hseconds, hpoint, hmicros⟩ := h
  have hfraction := fractionOf?_of_holds [hour, minute, second] hmicros hmicro (by rw [hlength])
  rw [clockOf?, partsOf?_colon (numberAt?_two hhours hhour) hcolon (by decide) (by omega),
    partsOf?_colon (numberAt?_two hminutes hminute) hcolon' (by decide) (by omega),
    partsOf?_point (numberAt?_two hseconds hsecond) hpoint (by omega)]
  exact hfraction

/-! ### Offsets -/

/-- The offset that is read back: less than a second in all is none. -/
def keptOffset (offset : Int) : Int := if offset.natAbs < 1000000 then 0 else offset

/-- The sign of an offset. -/
def signChar (offset : Int) : Char := if offset < 0 then '-' else '+'

/-- An offset is read off its sign and the clock behind it. -/
lemma offsetOf?_of_clock {bytes : List Nat} {i hour minute second micro : Nat} {offset : Int}
    (hsign : byteAt bytes i = (signChar offset).toNat)
    (hclock : clockOf? bytes (i + 1) bytes.length = some ⟨hour, minute, second, micro, false⟩)
    (hseconds : hour * 3600 + minute * 60 + second = offset.natAbs / 1000000)
    (hmicro : micro = offset.natAbs % 1000000) :
    offsetOf? bytes i = some (keptOffset offset) := by
  have hzulu : charAt bytes i 'Z' = false := by
    refine charAt_of_ne hsign ?_
    unfold signChar
    split <;> decide
  have hminus : charAt bytes i '-' = decide (offset < 0) := by
    rw [charAt, hsign, signChar]
    split
    · next hneg => rw [decide_eq_true hneg]; rfl
    · next hpos => rw [decide_eq_false hpos]; rfl
  simp only [offsetOf?, hzulu, Bool.false_eq_true, if_false, hclock, Option.bind_eq_bind,
    Option.bind_some, hseconds, hminus, decide_eq_true_eq, Option.pure_def, Option.some.injEq,
    keptOffset]
  split <;> split <;> split <;> omega

/-- Past the end of the bytes there are zeros. -/
lemma byteAt_length (bytes : List Nat) : byteAt bytes bytes.length = 0 := by
  rw [byteAt, List.getD_eq_getElem?_getD, List.getElem?_eq_none (Nat.le_refl _)]
  rfl

/-- An offset that is recorded at the end of the bytes is read back. -/
lemma offsetOf?_of_holds {bytes : List Nat} {i : Nat} {offset : Int}
    (h : Holds bytes i (offsetChars offset))
    (hlength : bytes.length = i + (offsetChars offset).length)
    (hlt : offset.natAbs < 86400000000) : offsetOf? bytes i = some (keptOffset offset) := by
  have hhour : offset.natAbs / 1000000 / 3600 < 100 := by omega
  have hminute : offset.natAbs / 1000000 / 60 % 60 < 100 := by omega
  have hsecond : offset.natAbs / 1000000 % 60 < 100 := by omega
  have hmicro : offset.natAbs % 1000000 < 1000000 := by omega
  have hend := byteAt_length bytes
  unfold offsetChars at h hlength
  simp only at h hlength
  split at h
  · -- Seconds and a fraction are recorded.
    next hfraction =>
    rw [if_pos hfraction] at hlength
    have hsix : (paddedDigits 6 (offset.natAbs % 1000000)).length = 6 :=
      length_paddedDigits hmicro (by decide)
    simp only [List.cons_append, List.append_assoc, holds_cons] at h
    simp only [List.length_cons, List.length_append, length_two hhour, length_two hminute,
      length_two hsecond, hsix] at hlength
    have hclock := clockOf?_microseconds h.2 hhour hminute hsecond hmicro (by omega)
    rw [show i + 1 + 15 = bytes.length by omega] at hclock
    exact offsetOf?_of_clock h.1 hclock (by omega) rfl
  · next hfraction =>
    rw [if_neg hfraction] at hlength
    have hzero : offset.natAbs % 1000000 = 0 := by omega
    split at h
    · -- Seconds are recorded.
      next hseconds =>
      rw [if_pos hseconds] at hlength
      simp only [List.cons_append, List.append_assoc, holds_cons] at h
      simp only [List.length_cons, List.length_append, length_two hhour, length_two hminute,
        length_two hsecond] at hlength
      have hclock := clockOf?_seconds h.2 hhour hminute hsecond
      rw [show i + 1 + 8 = bytes.length by omega, hend] at hclock
      exact offsetOf?_of_clock h.1 hclock (by omega) hzero.symm
    · next hseconds =>
      rw [if_neg hseconds] at hlength
      simp only [holds_cons] at h
      simp only [List.length_cons, List.length_append, length_two hhour, length_two hminute]
        at hlength
      have hclock := clockOf?_minutes h.2 hhour hminute
      rw [show i + 1 + 5 = bytes.length by omega, hend] at hclock
      exact offsetOf?_of_clock h.1 hclock (by omega) hzero.symm

/-! ### Moments -/

/-- What is read back of a recorded moment: all but the fraction of its second, and its offset
unless that is less than a second. -/
def kept (m : Moment) : Moment where
  date := m.date
  hour := m.hour
  minute := m.minute
  second := m.second
  microsecond := 0
  offset := m.offset.map keptOffset
  hour_lt := m.hour_lt
  minute_lt := m.minute_lt
  second_lt := m.second_lt
  microsecond_lt := Nat.zero_lt_of_lt m.microsecond_lt
  offset_lt := by
    intro t ht
    obtain ⟨offset, hoffset, rfl⟩ := Option.map_eq_some_iff.mp ht
    have hlt := m.offset_lt offset hoffset
    unfold keptOffset
    split
    · decide
    · exact hlt

/-- The time of day as it is recorded. -/
def clockChars (m : Moment) : List Char :=
  two m.hour ++ ':' :: (two m.minute ++ ':' :: two m.second)

/-- The offset as it is recorded. -/
def zoneChars (m : Moment) : List Char := (m.offset.map offsetChars).getD []

/-- A recorded moment is a date, a letter, a time of day and an offset. -/
lemma recordedChars_eq (m : Moment) :
    m.recordedChars = paddedDigits 4 m.date.year ++ '-' :: (two m.date.month ++ '-' ::
      (two m.date.day ++ 'T' :: (m.clockChars ++ m.zoneChars))) := by
  cases hoffset : m.offset <;> simp [recordedChars, clockChars, zoneChars, hoffset]

/-- A time of day takes eight characters. -/
lemma length_clockChars (m : Moment) : m.clockChars.length = 8 := by
  have hhour := length_two (Nat.lt_trans m.hour_lt (by decide))
  have hminute := length_two (Nat.lt_trans m.minute_lt (by decide))
  have hsecond := length_two (Nat.lt_trans m.second_lt (by decide))
  simp only [clockChars, List.length_append, List.length_cons, hhour, hminute, hsecond]

/-- The parts of a recorded moment stand at their places. -/
lemma holds_recordedChars {bytes : List Nat} (m : Moment) (h : Holds bytes 0 m.recordedChars) :
    Holds bytes 0 (paddedDigits 4 m.date.year) ∧ byteAt bytes 4 = '-'.toNat ∧
      Holds bytes 5 (two m.date.month) ∧ byteAt bytes 7 = '-'.toNat ∧
      Holds bytes 8 (two m.date.day) ∧ byteAt bytes 10 = 'T'.toNat ∧
      Holds bytes 11 m.clockChars ∧ Holds bytes 19 m.zoneChars := by
  have hyear : (paddedDigits 4 m.date.year).length = 4 :=
    length_paddedDigits (Nat.lt_succ_of_le m.date.year_mem.2) (by decide)
  have hmonth := length_two (Nat.lt_of_le_of_lt m.date.month_mem.2 (by decide))
  have hday := length_two
    (Nat.lt_of_le_of_lt (Nat.le_trans m.date.day_mem.2 (monthLength_le _ _)) (by decide))
  rw [recordedChars_eq] at h
  simpa only [holds_append, holds_cons, hyear, hmonth, hday, length_clockChars] using h

/-- A recorded moment takes 19 characters in front of the offset. -/
lemma length_recordedChars (m : Moment) :
    m.recordedChars.length = 19 + m.zoneChars.length := by
  have hyear : (paddedDigits 4 m.date.year).length = 4 :=
    length_paddedDigits (Nat.lt_succ_of_le m.date.year_mem.2) (by decide)
  have hmonth := length_two (Nat.lt_of_le_of_lt m.date.month_mem.2 (by decide))
  have hday := length_two
    (Nat.lt_of_le_of_lt (Nat.le_trans m.date.day_mem.2 (monthLength_le _ _)) (by decide))
  rw [recordedChars_eq]
  simp only [List.length_append, List.length_cons, hyear, hmonth, hday, length_clockChars]
  omega

/-- The offset begins behind the digits and colons of the time of day. -/
lemma zoneStart_append (front : List Nat) {clock zone : List Nat} (hne : clock ≠ [])
    (hclock : ∀ b ∈ clock, '0'.toNat ≤ b ∧ b ≤ ':'.toNat)
    (hzone : ∀ b ∈ zone.head?, b = '+'.toNat ∨ b = '-'.toNat) :
    zoneStart (front ++ (clock ++ zone)) front.length = front.length + clock.length := by
  obtain ⟨c, cs, rfl⟩ := List.exists_cons_of_ne_nil hne
  have hnot : ∀ b ∈ c :: cs,
      decide (b = '+'.toNat ∨ b = '-'.toNat ∨ b = 'Z'.toNat) = false := by
    intro b hb
    have hbounds := hclock b hb
    have hplus : '+'.toNat < '0'.toNat := by decide
    have hminus : '-'.toNat < '0'.toNat := by decide
    have hzulu : ':'.toNat < 'Z'.toNat := by decide
    exact decide_eq_false (by omega)
  have hfirst : byteAt (front ++ (c :: cs ++ zone)) front.length = c := by
    simp [byteAt, List.getD_eq_getElem?_getD]
  have hdrop : (front ++ (c :: cs ++ zone)).drop (front.length + 1) = cs ++ zone := by
    rw [← List.drop_drop, List.drop_left]
    rfl
  have hbehind : zone.takeWhile
      (fun b => !decide (b = '+'.toNat ∨ b = '-'.toNat ∨ b = 'Z'.toNat)) = [] := by
    cases zone with
    | nil => rfl
    | cons b zone =>
      rcases hzone b rfl with rfl | rfl <;> rfl
  have htake : (cs ++ zone).takeWhile
      (fun b => !decide (b = '+'.toNat ∨ b = '-'.toNat ∨ b = 'Z'.toNat)) = cs := by
    rw [List.takeWhile_append_of_pos, hbehind, List.append_nil]
    intro b hb
    rw [hnot b (List.mem_cons_of_mem c hb)]
    rfl
  simp only [zoneStart, hfirst, hnot c List.mem_cons_self, Bool.false_eq_true, if_false, hdrop,
    htake, List.length_cons]
  omega

/-- A recorded time of day holds digits and colons only. -/
lemma bounds_of_mem_clockChars {m : Moment} {c : Char} (h : c ∈ m.clockChars) :
    '0'.toNat ≤ c.toNat ∧ c.toNat ≤ ':'.toNat := by
  have hdigit : ∀ n, c ∈ two n → '0'.toNat ≤ c.toNat ∧ c.toNat ≤ ':'.toNat := by
    intro n hn
    obtain ⟨hlow, hhigh⟩ := toNat_of_isDigit (Reading.isDigit_of_mem_paddedDigits hn)
    exact ⟨hlow, Nat.le_trans hhigh (by decide)⟩
  simp only [clockChars, List.mem_append, List.mem_cons] at h
  rcases h with h | rfl | h | rfl | h
  · exact hdigit _ h
  · decide
  · exact hdigit _ h
  · decide
  · exact hdigit _ h

/-- A recorded offset is its sign with digits, colons and a point behind it. -/
lemma exists_offsetChars (offset : Int) :
    ∃ rest, offsetChars offset = signChar offset :: rest ∧
      ∀ c ∈ rest, c.isDigit = true ∨ c = ':' ∨ c = '.' := by
  have hdigit : ∀ width n, ∀ c ∈ paddedDigits width n, c.isDigit = true := fun _ _ _ =>
    Reading.isDigit_of_mem_paddedDigits
  unfold offsetChars
  simp only [List.cons_append, List.append_assoc]
  split
  · refine ⟨_, rfl, fun c hc => ?_⟩
    simp only [two, List.mem_append, List.mem_cons] at hc
    grind
  · split
    · refine ⟨_, rfl, fun c hc => ?_⟩
      simp only [two, List.mem_append, List.mem_cons] at hc
      grind
    · refine ⟨_, rfl, fun c hc => ?_⟩
      simp only [two, List.mem_append, List.mem_cons] at hc
      grind

/-- The offset of a recorded moment is found. -/
lemma zoneStart_recordedChars (m : Moment) :
    zoneStart (m.recordedChars.map Char.toNat) 11 = 19 := by
  obtain ⟨front, hsplit⟩ : ∃ front, m.recordedChars = front ++ (m.clockChars ++ m.zoneChars) :=
    ⟨paddedDigits 4 m.date.year ++ '-' :: (two m.date.month ++ '-' :: (two m.date.day ++ ['T'])), by
      simp [recordedChars_eq]⟩
  have hfront : (front.map Char.toNat).length = 11 := by
    have hlength := congrArg List.length hsplit
    rw [length_recordedChars, List.length_append, List.length_append, length_clockChars] at hlength
    rw [List.length_map]
    omega
  have hclock : (m.clockChars.map Char.toNat).length = 8 := by
    rw [List.length_map, length_clockChars]
  have hdigits : ∀ b ∈ m.clockChars.map Char.toNat, '0'.toNat ≤ b ∧ b ≤ ':'.toNat := by
    intro b hb
    obtain ⟨c, hc, rfl⟩ := List.mem_map.mp hb
    exact bounds_of_mem_clockChars hc
  have hsign : ∀ b ∈ (m.zoneChars.map Char.toNat).head?, b = '+'.toNat ∨ b = '-'.toNat := by
    cases hoffset : m.offset with
    | none =>
      rw [zoneChars, hoffset]
      exact fun b hb => (nomatch hb)
    | some offset =>
      obtain ⟨rest, hrest, -⟩ := exists_offsetChars offset
      rw [zoneChars, hoffset, Option.map_some, Option.getD_some, hrest]
      rintro b ⟨⟩
      unfold signChar
      split
      · exact Or.inr rfl
      · exact Or.inl rfl
  have hne : m.clockChars.map Char.toNat ≠ [] := List.ne_nil_of_length_pos (by omega)
  have hstart := zoneStart_append (front.map Char.toNat) hne hdigits hsign
  rwa [hfront, hclock, ← List.map_append, ← List.map_append, ← hsplit] at hstart

/-- The time of day and the offset of a recorded moment are read back. -/
lemma timeOf?_recordedChars (m : Moment) :
    timeOf? (m.recordedChars.map Char.toNat) m.date 11 = some m.kept := by
  generalize hbytes : m.recordedChars.map Char.toNat = bytes
  have hlength : bytes.length = 19 + m.zoneChars.length := by
    rw [← hbytes, List.length_map, length_recordedChars]
  obtain ⟨-, -, -, -, -, -, hclock, hzone⟩ :=
    m.holds_recordedChars (hbytes ▸ holds_self m.recordedChars)
  have hread : clockOf? bytes 11 19 =
      some ⟨m.hour, m.minute, m.second, 0, byteAt bytes 19 ≠ 0⟩ :=
    clockOf?_seconds hclock (Nat.lt_trans m.hour_lt (by decide))
      (Nat.lt_trans m.minute_lt (by decide)) (Nat.lt_trans m.second_lt (by decide))
  have hstart : zoneStart bytes 11 = 19 := hbytes ▸ m.zoneStart_recordedChars
  cases hoffset : m.offset with
  | none =>
    have hnil : m.zoneChars = [] := by rw [zoneChars, hoffset]; rfl
    rw [hnil] at hlength
    have hend : byteAt bytes 19 = 0 := by
      rw [← byteAt_length bytes, hlength]
      rfl
    have hof := of?_self m.kept
    simp only [kept, hoffset, Option.map_none] at hof ⊢
    simp [timeOf?, hstart, hread, hlength, hend, hof]
  | some offset =>
    have hchars : m.zoneChars = offsetChars offset := by rw [zoneChars, hoffset]; rfl
    rw [hchars] at hlength hzone
    have hlong : ¬bytes.length ≤ 19 := by
      obtain ⟨rest, hrest, -⟩ := exists_offsetChars offset
      rw [hrest, List.length_cons] at hlength
      omega
    have hreadZone := offsetOf?_of_holds hzone hlength (m.offset_lt offset hoffset)
    have hof := of?_self m.kept
    simp only [kept, hoffset, Option.map_some] at hof ⊢
    simp [timeOf?, hstart, hread, hlong, hreadZone, hof]

/-- A recorded moment is in ASCII. -/
lemma toNat_lt_of_mem_recordedChars {m : Moment} {c : Char} (h : c ∈ m.recordedChars) :
    c.toNat < 0x80 := by
  have hdigit : c.isDigit = true → c.toNat < 0x80 := fun hc =>
    Nat.lt_of_le_of_lt (toNat_of_isDigit hc).2 (by decide)
  have hdigits : ∀ width n, c ∈ paddedDigits width n → c.toNat < 0x80 := fun _ _ hc =>
    hdigit (Reading.isDigit_of_mem_paddedDigits hc)
  have hclock : c ∈ m.clockChars → c.toNat < 0x80 := fun hc =>
    Nat.lt_of_le_of_lt (bounds_of_mem_clockChars hc).2 (by decide)
  have hzone : c ∈ m.zoneChars → c.toNat < 0x80 := by
    intro hc
    cases hoffset : m.offset with
    | none =>
      rw [zoneChars, hoffset] at hc
      cases hc
    | some offset =>
      obtain ⟨rest, hrest, hbehind⟩ := exists_offsetChars offset
      rw [zoneChars, hoffset, Option.map_some, Option.getD_some, hrest, List.mem_cons] at hc
      rcases hc with rfl | hc
      · unfold signChar
        split <;> decide
      · rcases hbehind c hc with hc | rfl | rfl
        · exact hdigit hc
        · decide
        · decide
  rw [recordedChars_eq] at h
  simp only [List.mem_append, List.mem_cons] at h
  rcases h with h | rfl | h | rfl | h | rfl | h | h
  · exact hdigits _ _ h
  · decide
  · exact hdigits _ _ h
  · decide
  · exact hdigits _ _ h
  · decide
  · exact hclock h
  · exact hzone h

/-- A text in ASCII is its own bytes. -/
lemma map_toNat_encode {cs : List Char} (h : ∀ c ∈ cs, c.toNat < 0x80) :
    (Text.encode cs).map UInt8.toNat = cs.map Char.toNat := by
  induction cs with
  | nil => rfl
  | cons c cs ih =>
    have hc : c.toNat < 0x80 := h c List.mem_cons_self
    have hbyte : (UInt8.ofNat c.toNat).toNat = c.toNat := by
      rw [UInt8.toNat_ofNat']
      omega
    have hrest := ih fun d hd => h d (List.mem_cons_of_mem c hd)
    rw [Text.encode] at hrest ⊢
    rw [List.flatMap_cons, List.map_append, hrest, Text.encodeChar, if_pos hc, List.map_singleton,
      hbyte, List.map_cons, List.singleton_append]

/-- A recorded moment is read back. -/
theorem ofChars?_recordedChars (m : Moment) : ofChars? m.recordedChars = some m.kept := by
  have htime := m.timeOf?_recordedChars
  rw [ofChars?, map_toNat_encode fun _ => toNat_lt_of_mem_recordedChars]
  generalize hbytes : m.recordedChars.map Char.toNat = bytes at htime ⊢
  have hlength : ¬bytes.length ≤ 10 := by
    rw [← hbytes, List.length_map, length_recordedChars]
    omega
  obtain ⟨hyear, hhyphen, hmonth, hhyphen', hday, hletter, -⟩ :=
    m.holds_recordedChars (hbytes ▸ holds_self m.recordedChars)
  obtain ⟨hend, hdate⟩ := dateOf?_of_holds m.date (by omega) hyear hhyphen hmonth hhyphen' hday
  have hwidth : charLength (byteAt bytes 10) = 1 := by
    rw [hletter]
    rfl
  simp [ofBytes?, hend, hdate, hlength, hwidth, htime]

/-- A text without halves is read by its characters. -/
lemma ofPoints?_map_char (cs : List Char) : ofPoints? (cs.map .char) = ofChars? cs := by
  have hfind : (separatorPlaces.find? fun i => ((cs.map CodePoint.char)[i]?).any (·.isHalf)) =
      none := by
    refine List.find?_eq_none.mpr fun i _ => ?_
    cases hc : cs[i]? <;> simp [hc, CodePoint.isHalf]
  have hchars : (cs.map CodePoint.char).mapM CodePoint.char? = some cs := by
    clear hfind
    induction cs with
    | nil => rfl
    | cons c cs ih => simp [CodePoint.char?, ih]
  simp only [ofPoints?, hfind, hchars, Option.bind_some]

end Moment

end Calculator
