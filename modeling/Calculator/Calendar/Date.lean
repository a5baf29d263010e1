/-!
# Dates

The Gregorian calendar from year 1 to year 9999, extended backwards, and its weeks: a week begins on
Monday and belongs to the year of its Thursday.
-/

namespace Calculator

namespace Calendar

/-- Whether a year has a leap day. -/
def isLeap (year : Nat) : Bool :=
  year % 4 = 0 ∧ (year % 100 ≠ 0 ∨ year % 400 = 0)

/-- The number of days of a month. -/
def monthLength (year month : Nat) : Nat :=
  match month with
  | 2 => if isLeap year then 29 else 28
  | 4 | 6 | 9 | 11 => 30
  | _ => 31

/-- The number of days of a year. -/
def yearLength (year : Nat) : Nat := if isLeap year then 366 else 365

/-- The number of days from the first of January of year 1 to that of a year. -/
def daysBefore (year : Nat) : Nat :=
  let y := year - 1
  365 * y + y / 4 - y / 100 + y / 400

/-- The weekday of the first of January, counted from zero for Monday. Year 1 begins on a Monday. -/
def newYearWeekday (year : Nat) : Nat := daysBefore year % 7

/-- The number of weeks of a year. It is 53 when the year begins on a Thursday, or is a leap year that
begins on a Wednesday. -/
def weekCount (year : Nat) : Nat :=
  let weekday := newYearWeekday year
  if weekday = 3 ∨ (weekday = 2 ∧ isLeap year) then 53 else 52

/-- The month and day of a day of the year counted from zero, from a month on. -/
def monthAndDay (year : Nat) : Nat → Nat → Nat → Nat × Nat
  | 0, month, day => (month, day + 1)
  | left + 1, month, day =>
    if day < monthLength year month then (month, day + 1)
    else monthAndDay year left (month + 1) (day - monthLength year month)

/-- The year, month and day that lie a number of days after the first of January. -/
def afterNewYear (year : Nat) (days : Int) : Nat × Nat × Nat :=
  if days < 0 then
    let before := year - 1
    (before, monthAndDay before 11 1 (days + yearLength before).toNat)
  else if days < yearLength year then (year, monthAndDay year 11 1 days.toNat)
  else (year + 1, monthAndDay (year + 1) 11 1 (days - yearLength year).toNat)

end Calendar

/-- A date. -/
structure Date where
  year : Nat
  month : Nat
  day : Nat
  year_mem : 1 ≤ year ∧ year ≤ 9999
  month_mem : 1 ≤ month ∧ month ≤ 12
  day_mem : 1 ≤ day ∧ day ≤ Calendar.monthLength year month
deriving DecidableEq, Repr

namespace Date

/-- The date of a year, month and day, if there is one. -/
def of? (year month day : Nat) : Option Date :=
  if h : (1 ≤ year ∧ year ≤ 9999) ∧ (1 ≤ month ∧ month ≤ 12) ∧
      (1 ≤ day ∧ day ≤ Calendar.monthLength year month) then
    some ⟨year, month, day, h.1, h.2.1, h.2.2⟩
  else none

/-- The parts of a date make up the date. -/
@[simp] theorem of?_self (d : Date) : of? d.year d.month d.day = some d := by
  simp [of?, d.year_mem, d.month_mem, d.day_mem]

/-- The date of a day, from 1 for Monday to 7, of a week of a year. -/
def ofWeek? (year week weekday : Nat) : Option Date :=
  if 1 ≤ year ∧ year ≤ 9999 ∧ 1 ≤ week ∧ week ≤ Calendar.weekCount year ∧
      1 ≤ weekday ∧ weekday ≤ 7 then
    let newYear := Calendar.newYearWeekday year
    let monday : Int := if 3 < newYear then 7 - (newYear : Int) else -(newYear : Int)
    let (year, month, day) := Calendar.afterNewYear year (monday + 7 * (week - 1) + (weekday - 1))
    of? year month day
  else none

/-- The date that lies a number of days after the first of January of year 1. A year has 146097/400
days on average, so the year found first is at most one year off, and the rest in days tells. -/
def ofDays? (days : Nat) : Option Date :=
  let near := 400 * days / 146097 + 1
  let (year, month, day) := Calendar.afterNewYear near ((days : Int) - Calendar.daysBefore near)
  of? year month day

end Date

end Calculator
