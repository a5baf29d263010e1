import Calculator.Calendar.Moment
import Calculator.Text.Units
import Calculator.Text.Utf8

/-!
# Moments in texts

A moment is read from the bytes of a text: a date, and a time after one separating character. Dates
are given by month and day or by week and weekday, with or without hyphens; times with or without
colons, down to a fraction of a second; and after the time a `Z` or an offset may stand. Past the end
of the text there are zero bytes, and what follows the parts that are read is not always looked at.
-/

namespace Calculator

namespace Moment

/-! ### Bytes -/

/-- The byte at an index, zero past the end. -/
def byteAt (bytes : List Nat) (i : Nat) : Nat := bytes.getD i 0

/-- Whether the byte at an index is the given character. -/
def charAt (bytes : List Nat) (i : Nat) (c : Char) : Bool := byteAt bytes i = c.toNat

/-- Whether the byte at an index is a digit. -/
def digitAt (bytes : List Nat) (i : Nat) : Bool :=
  '0'.toNat ≤ byteAt bytes i ∧ byteAt bytes i ≤ '9'.toNat

/-- The number that as many digits denote from an index on. -/
def numberAt? (bytes : List Nat) (i width : Nat) : Option Nat :=
  let ds := (List.range width).map fun k => i + k
  if ds.all (digitAt bytes) then
    some (ds.foldl (fun n k => 10 * n + (byteAt bytes k - '0'.toNat)) 0)
  else none

/-! ### Date -/

/-- The index at which the date ends. It is decided by the hyphens and the letter of weeks at their
places: a week is followed by a weekday if the number of digits after it is odd, or if it is followed
by a hyphen and not by two more digits. -/
def dateEnd? (bytes : List Nat) : Option Nat :=
  let length := bytes.length
  if length < 7 then none
  else if length = 7 then some 7
  else if charAt bytes 4 '-' then
    if charAt bytes 5 'W' then
      if length > 8 ∧ charAt bytes 8 '-' then
        if length = 9 then none
        else if length > 10 ∧ digitAt bytes 10 then some 8 else some 10
      else some 8
    else some 10
  else if charAt bytes 4 'W' then
    let stop := 7 + ((bytes.drop 7).takeWhile fun b => '0'.toNat ≤ b ∧ b ≤ '9'.toNat).length
    if stop < 9 then some stop else if stop % 2 = 0 then some 7 else some 8
  else some 8

/-- The date of the bytes up to where it ends. -/
def dateOf? (bytes : List Nat) (stop : Nat) : Option Date := do
  let year ← numberAt? bytes 0 4
  let hyphen := charAt bytes 4 '-'
  let i := if hyphen then 5 else 4
  if charAt bytes i 'W' then
    let week ← numberAt? bytes (i + 1) 2
    if i + 3 < stop then
      if hyphen ∧ ¬ charAt bytes (i + 3) '-' then none
      else
        let weekday ← numberAt? bytes (if hyphen then i + 4 else i + 3) 1
        Date.ofWeek? year week weekday
    else Date.ofWeek? year week 1
  else
    let month ← numberAt? bytes i 2
    if hyphen ∧ ¬ charAt bytes (i + 2) '-' then none
    else
      let day ← numberAt? bytes (if hyphen then i + 3 else i + 2) 2
      Date.of? year month day

/-! ### Time -/

/-- A time of day as it is read, not yet checked for its range, and whether anything follows it. -/
structure Clock where
  hour : Nat
  minute : Nat
  second : Nat
  microsecond : Nat
  followed : Bool

/-- A time of day of the hours, minutes and seconds that are read. -/
def Clock.ofParts (parts : List Nat) (microsecond : Nat) (followed : Bool) : Clock :=
  ⟨parts.getD 0 0, parts.getD 1 0, parts.getD 2 0, microsecond, followed⟩

/-- Reads a fraction of a second. Six digits count, and further ones are skipped. -/
def fractionOf? (bytes : List Nat) (i stop : Nat) (parts : List Nat) : Option Clock := do
  let width := min 6 (stop - i)
  let n ← numberAt? bytes i width
  let rest := (bytes.drop (i + width)).dropWhile fun b => '0'.toNat ≤ b ∧ b ≤ '9'.toNat
  return .ofParts parts (n * 10 ^ (6 - width)) (rest.headD 0 ≠ 0)

/-- Reads as many parts of two digits as are left, and a fraction after a point, a comma or the last
part. The character after the first part decides whether colons stand between the parts. -/
def partsOf? (bytes : List Nat) (stop : Nat) :
    Nat → Option Bool → Nat → List Nat → Option Clock
  | 0, _, i, parts => fractionOf? bytes i stop parts
  | left + 1, colons?, i, parts => do
    let n ← numberAt? bytes i 2
    let parts := parts ++ [n]
    let colons := colons?.getD (charAt bytes (i + 2) ':')
    if stop ≤ i + 3 then return .ofParts parts 0 (byteAt bytes (i + 2) ≠ 0)
    else if colons ∧ charAt bytes (i + 2) ':' then
      partsOf? bytes stop left (some colons) (i + 3) parts
    else if charAt bytes (i + 2) '.' ∨ charAt bytes (i + 2) ',' then
      fractionOf? bytes (i + 3) stop parts
    else if colons then none
    else partsOf? bytes stop left (some colons) (i + 2) parts

/-- Reads a time of day or an offset between two indices. -/
def clockOf? (bytes : List Nat) (start stop : Nat) : Option Clock :=
  partsOf? bytes stop 3 none start []

/-- The index of the first `Z` or sign from an index on, or the end. The first byte counts even if
there is none. -/
def zoneStart (bytes : List Nat) (start : Nat) : Nat :=
  let isZone (b : Nat) : Bool := b = '+'.toNat ∨ b = '-'.toNat ∨ b = 'Z'.toNat
  if isZone (byteAt bytes start) then start
  else start + 1 + ((bytes.drop (start + 1)).takeWhile fun b => !isZone b).length

/-- The offset that begins at an index. Less than a second in all counts as none. -/
def offsetOf? (bytes : List Nat) (i : Nat) : Option Int := do
  if charAt bytes i 'Z' then
    if byteAt bytes (i + 1) = 0 then return 0 else none
  else
    let clock ← clockOf? bytes (i + 1) bytes.length
    if clock.followed then none
    else
      let seconds := clock.hour * 3600 + clock.minute * 60 + clock.second
      let micro : Int := if seconds = 0 then 0 else seconds * 1000000 + clock.microsecond
      return if charAt bytes i '-' then -micro else micro

/-- The moment of a date and a time that begins at an index. -/
def timeOf? (bytes : List Nat) (date : Date) (start : Nat) : Option Moment := do
  let zone := zoneStart bytes start
  let clock ← clockOf? bytes start zone
  if bytes.length ≤ zone then
    if clock.followed then none
    else of? date clock.hour clock.minute clock.second clock.microsecond none
  else
    let offset ← offsetOf? bytes zone
    of? date clock.hour clock.minute clock.second clock.microsecond (some offset)

/-! ### Moments -/

/-- The number of bytes of the character that begins with a byte. -/
def charLength (byte : Nat) : Nat :=
  if byte < 0x80 then 1
  else if byte / 16 = 0xE then 3
  else if byte / 16 = 0xF then 4
  else 2

/-- The moment that bytes denote. A date alone is its midnight. -/
def ofBytes? (bytes : List Nat) : Option Moment := do
  let stop ← dateEnd? bytes
  let date ← dateOf? bytes stop
  if bytes.length ≤ stop then of? date 0 0 0 0 none
  else timeOf? bytes date (stop + charLength (byteAt bytes stop))

/-- The moment that characters denote. -/
def ofChars? (cs : List Char) : Option Moment := ofBytes? ((Text.encode cs).map UInt8.toNat)

/-- The moment that a text denotes. -/
def ofText? (text : String) : Option Moment := ofChars? text.toList

/-- The places at which the date may end. -/
def separatorPlaces : List Nat := [7, 8, 10]

/-- The moment that code points denote. The first of the places at which the date may end that holds a
half counts as a separating letter; no other half has a place in a moment. -/
def ofPoints? (ps : List CodePoint) : Option Moment :=
  let filled :=
    match separatorPlaces.find? fun i => (ps[i]?).any (·.isHalf) with
    | some i => ps.set i (.char 'T')
    | none => ps
  (filled.mapM CodePoint.char?).bind ofChars?

end Moment

end Calculator
