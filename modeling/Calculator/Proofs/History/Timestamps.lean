import Calculator.History.Listing
import Calculator.Proofs.Calendar.ReadBack
import Calculator.Proofs.Decimal.Lossless
import Calculator.Proofs.History.Appending

/-!
# Time stamps

The time stamp of a calculation that is recorded is read back when it is listed, for every moment
that a clock shows, and it is listed with the date, the hour and the minute of the clock
(`Store.record_lists_moment`). What a text has to be to show a moment is said without the function
that lists it (`Moment.ShownBy`).
-/

namespace Calculator

namespace Moment

/-! ### Texts that show a moment -/

/-- The digits of a number. -/
structure IsNumeral (n : Nat) (ds : List Char) : Prop where
  isDigit : ∀ c ∈ ds, c.isDigit = true
  value : digitsValue ds = n

/-- A year, month and day with hyphens between them, and an hour and minute with a colon between
them behind a space. The year is not led by zeros, and the others take two digits each. -/
inductive ShownBy (m : Moment) : List Char → Prop
  | mk {year month day hour minute : List Char}
      (isYear : IsNumeral m.date.year year) (notPadded : year.head? ≠ some '0')
      (isMonth : IsNumeral m.date.month month) (monthLength : month.length = 2)
      (isDay : IsNumeral m.date.day day) (dayLength : day.length = 2)
      (isHour : IsNumeral m.hour hour) (hourLength : hour.length = 2)
      (isMinute : IsNumeral m.minute minute) (minuteLength : minute.length = 2) :
      ShownBy m (year ++ '-' :: (month ++ '-' :: (day ++ ' ' :: (hour ++ ':' :: minute))))

/-- A number is denoted by its digits. -/
lemma isNumeral_digits (n : Nat) : IsNumeral n (digits n) :=
  ⟨fun _ => isDigit_of_mem_digits, digitsValue_digits n⟩

/-- Zeros in front change nothing. -/
lemma isNumeral_two (n : Nat) : IsNumeral n (two n) :=
  ⟨fun _ => Reading.isDigit_of_mem_paddedDigits, Reading.digitsValue_paddedDigits 2 n⟩

/-- A moment that is listed shows itself. -/
lemma shownBy_listedChars (m : Moment) : m.ShownBy m.listedChars := by
  have hyear : (digits m.date.year).head? ≠ some '0' := fun h =>
    absurd (head?_digits h) (Nat.pos_iff_ne_zero.mp m.date.year_mem.1)
  have hmonth : m.date.month < 100 := Nat.lt_of_le_of_lt m.date.month_mem.2 (by decide)
  have hday : m.date.day < 100 :=
    Nat.lt_of_le_of_lt (Nat.le_trans m.date.day_mem.2 (monthLength_le _ _)) (by decide)
  have hhour : m.hour < 100 := Nat.lt_trans m.hour_lt (by decide)
  have hminute : m.minute < 100 := Nat.lt_trans m.minute_lt (by decide)
  exact .mk (isNumeral_digits _) hyear (isNumeral_two _) (length_two hmonth) (isNumeral_two _)
    (length_two hday) (isNumeral_two _) (length_two hhour) (isNumeral_two _) (length_two hminute)

/-! ### Time stamps of moments -/

/-- A moment is read back from its time stamp. -/
lemma ofPoints?_recorded (m : Moment) :
    ofPoints? (CodeUnits.ofString m.recorded).points = some m.kept := by
  rw [CodeUnits.ofString, CodeUnits.points_ofChars, ofPoints?_map_char, recorded,
    String.toList_ofList, ofChars?_recordedChars]

/-- The fraction of the second and the offset, which are not kept, are not listed either. -/
lemma listed_kept (m : Moment) : m.kept.listed = m.listed := rfl

/-- The time stamp of a moment is listed as the moment. -/
lemma listedTimestamp_recorded (m : Moment) :
    listedTimestamp (CodeUnits.ofString m.recorded) = CodeUnits.ofString m.listed := by
  rw [listedTimestamp, ofPoints?_recorded, ← listed_kept]

end Moment

namespace Store

/-- A calculation that is recorded is listed first. Its time stamp is read as a moment of the same
date, hour, minute and second, and shown in its row with that date, hour and minute. -/
theorem record_lists_moment {store next : Store} {now : Moment} {equation result category : String}
    {entry : Entry} (h : store.record now equation result category = (next, .ok entry)) :
    (∃ es, next.entries = .ok (entry :: es)) ∧
    (∃ read, Moment.ofPoints? entry.timestamp.points = some read ∧ read.date = now.date ∧
      read.hour = now.hour ∧ read.minute = now.minute ∧ read.second = now.second) ∧
    ∃ text : String, now.ShownBy text.toList ∧
      listedTimestamp entry.timestamp = CodeUnits.ofString text ∧
      entry.row.head? = some (CodeUnits.ofString text) := by
  have happends := store.appends_record now equation result category
  rw [h] at happends
  obtain ⟨rfl, es, -, hlisted⟩ := happends.entries
  have hstamp := now.listedTimestamp_recorded
  refine ⟨⟨es, hlisted⟩, ⟨now.kept, now.ofPoints?_recorded, rfl, rfl, rfl, rfl⟩, now.listed, ?_,
    hstamp, ?_⟩
  · rw [Moment.listed, String.toList_ofList]
    exact now.shownBy_listedChars
  · rw [Entry.row, List.head?_cons]
    exact congrArg some hstamp

/-- One microsecond before the end of a leap day of year 4, by a clock that is a microsecond less
than a day behind universal time. -/
def leapNight : Moment where
  date := ⟨4, 2, 29, by decide, by decide, by decide⟩
  hour := 23
  minute := 59
  second := 59
  microsecond := 999999
  offset := some (-86399999999)
  hour_lt := by decide
  minute_lt := by decide
  second_lt := by decide
  microsecond_lt := by decide
  offset_lt := by
    rintro t ⟨⟩
    decide

/-- A calculation of that night is recorded and listed. -/
theorem record_lists_leapNight :
    ∃ next entry,
      record ⟨.missing sampleSpare, "eve"⟩ leapNight "1+1" "2" "standard" = (next, .ok entry) ∧
      (∃ es, next.entries = .ok (entry :: es)) ∧
      (∃ read, Moment.ofPoints? entry.timestamp.points = some read ∧ read.date = leapNight.date ∧
        read.hour = 23 ∧ read.minute = 59 ∧ read.second = 59) ∧
      ∃ text : String, leapNight.ShownBy text.toList ∧
        listedTimestamp entry.timestamp = CodeUnits.ofString text ∧
        entry.row.head? = some (CodeUnits.ofString text) := by
  have hwritable : IsWritable ⟨.missing sampleSpare, "eve"⟩ :=
    ⟨by decide +kernel, by decide +kernel⟩
  obtain ⟨next, entry, hrecord⟩ := (exists_record_eq_ok_iff ⟨.missing sampleSpare, "eve"⟩
    leapNight "1+1" "2" "standard").mpr ⟨hwritable, [], rfl⟩
  exact ⟨next, entry, hrecord, record_lists_moment hrecord⟩

end Store

end Calculator
