import Calculator.Calendar.Date
import Calculator.Decimal

/-!
# Moments

A moment is a date and a time of day, with the offset of its clock from universal time if it is known.
It is recorded to the second, with its offset, and listed to the minute, without it.
-/

namespace Calculator

/-- A moment. -/
structure Moment where
  date : Date
  hour : Nat
  minute : Nat
  second : Nat
  microsecond : Nat
  /-- The offset from universal time in microseconds. -/
  offset : Option Int
  hour_lt : hour < 24
  minute_lt : minute < 60
  second_lt : second < 60
  microsecond_lt : microsecond < 1000000
  offset_lt : ∀ t, offset = some t → t.natAbs < 86400000000
deriving DecidableEq, Repr

namespace Moment

/-- The moment of a date, a time of day and an offset, if the time and the offset are in range. -/
def of? (date : Date) (hour minute second microsecond : Nat) (offset : Option Int) :
    Option Moment :=
  if h : hour < 24 ∧ minute < 60 ∧ second < 60 ∧ microsecond < 1000000 ∧
      ∀ t, offset = some t → t.natAbs < 86400000000 then
    some ⟨date, hour, minute, second, microsecond, offset, h.1, h.2.1, h.2.2.1, h.2.2.2.1,
      h.2.2.2.2⟩
  else none

/-- The parts of a moment make up the moment. -/
@[simp] theorem of?_self (m : Moment) :
    of? m.date m.hour m.minute m.second m.microsecond m.offset = some m := by
  rw [of?, dif_pos ⟨m.hour_lt, m.minute_lt, m.second_lt, m.microsecond_lt, m.offset_lt⟩]

/-- The moment in universal time that lies a number of seconds after the beginning of 1970. -/
def ofUnixSeconds? (seconds : Nat) : Option Moment :=
  (Date.ofDays? (Calendar.daysBefore 1970 + seconds / 86400)).bind fun date =>
    of? date (seconds / 3600 % 24) (seconds / 60 % 60) (seconds % 60) 0 (some 0)

/-! ### Texts -/

/-- Two digits. -/
def two (n : Nat) : List Char := paddedDigits 2 n

/-- The text of an offset: hours and minutes, and seconds and microseconds as far as they are not
zero. -/
def offsetChars (offset : Int) : List Char :=
  let micro := offset.natAbs
  let second := micro / 1000000
  let text := (if offset < 0 then '-' else '+') :: (two (second / 3600) ++
    ':' :: two (second / 60 % 60))
  if micro % 1000000 ≠ 0 then
    text ++ ':' :: (two (second % 60) ++ '.' :: paddedDigits 6 (micro % 1000000))
  else if second % 60 ≠ 0 then text ++ ':' :: two (second % 60)
  else text

/-- The moment as it is recorded: year, month and day, the time to the second, and the offset. -/
def recordedChars (m : Moment) : List Char :=
  paddedDigits 4 m.date.year ++ '-' :: (two m.date.month ++ '-' :: (two m.date.day ++
    'T' :: (two m.hour ++ ':' :: (two m.minute ++ ':' :: (two m.second ++
      (match m.offset with
        | none => []
        | some offset => offsetChars offset))))))

/-- The moment as it is recorded. -/
def recorded (m : Moment) : String := .ofList m.recordedChars

/-- The moment as it is listed: the year without leading zeros, month and day, hour and minute. -/
def listedChars (m : Moment) : List Char :=
  digits m.date.year ++ '-' :: (two m.date.month ++ '-' :: (two m.date.day ++
    ' ' :: (two m.hour ++ ':' :: two m.minute)))

/-- The moment as it is listed. -/
def listed (m : Moment) : String := .ofList m.listedChars

end Moment

end Calculator
