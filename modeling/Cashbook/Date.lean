import Cashbook.Integer

/-!
# Dates

A date is a day of the calendar from the year 1 to the year 9999, with the leap years of the
Gregorian rule throughout.  Dates are ordered by one number each, have neighbours and weekdays,
and are written as year, month and day.
-/

namespace Cashbook

/-- Why numbers or a step do not lead to a date or a time of day. -/
inductive CalendarError where
  | yearOutOfRange (year : Int)
  | monthOutOfRange
  | dayOutOfRange
  | hourOutOfRange
  | minuteOutOfRange
  | secondOutOfRange
  /-- The length of a month was asked for that no year has. -/
  | noSuchMonth (month : Int)
  /-- The number of such a month has too many digits to be written out. -/
  | unwritableMonth
  /-- A step leads before the first or behind the last date. -/
  | outsideCalendar
  /-- A part of the date is above the numbers of 32 bits. -/
  | partTooLarge
  /-- A part of the date is below the numbers of 32 bits. -/
  | partTooSmall
  /-- A part of the date does not even fit into 64 bits. -/
  | partTooLong
  /-- A distance between two clocks has more days than any two dates are apart. -/
  | offsetOutOfRange (days : Int)
  /-- The days of a distance between two clocks do not even fit into 32 bits. -/
  | offsetTooLong
deriving DecidableEq

/-- The wording of a calendar error. -/
def CalendarError.message : CalendarError → String
  | yearOutOfRange year => "year " ++ String.ofList (Integer.toText year) ++ " is out of range"
  | monthOutOfRange => "month must be in 1..12"
  | dayOutOfRange => "day is out of range for month"
  | hourOutOfRange => "hour must be in 0..23"
  | minuteOutOfRange => "minute must be in 0..59"
  | secondOutOfRange => "second must be in 0..59"
  | noSuchMonth month =>
      "bad month number " ++ String.ofList (Integer.toText month) ++ "; must be 1-12"
  | unwritableMonth =>
      "Exceeds the limit (4300 digits) for integer string conversion; "
        ++ "use sys.set_int_max_str_digits() to increase the limit"
  | outsideCalendar => "date value out of range"
  | partTooLarge => "signed integer is greater than maximum"
  | partTooSmall => "signed integer is less than minimum"
  | partTooLong => "Python int too large to convert to C long"
  | offsetOutOfRange days =>
      "days=" ++ String.ofList (Integer.toText days) ++ "; must have magnitude <= 999999999"
  | offsetTooLong => "Python int too large to convert to C int"

/-- Does the error say that a number or a step is too large, rather than that a value is wrong? -/
def CalendarError.isOverflow : CalendarError → Bool
  | unwritableMonth | outsideCalendar | partTooLarge | partTooSmall | partTooLong
  | offsetOutOfRange _ | offsetTooLong => true
  | _ => false

/-- The leap years of the Gregorian rule. -/
def isLeapYear (year : Nat) : Bool :=
  year % 4 == 0 && (year % 100 != 0 || year % 400 == 0)

/-- The length of a month. -/
def daysInMonth (year month : Nat) : Nat :=
  if month = 2 then (if isLeapYear year then 29 else 28)
  else if month = 4 ∨ month = 6 ∨ month = 9 ∨ month = 11 then 30
  else 31

theorem daysInMonth_le (year month : Nat) : daysInMonth year month ≤ 31 := by
  unfold daysInMonth
  split
  · split <;> omega
  · split <;> omega

theorem le_daysInMonth (year month : Nat) : 28 ≤ daysInMonth year month := by
  unfold daysInMonth
  split
  · split <;> omega
  · split <;> omega

/-- Do the numbers name a day of the calendar? -/
def IsDate (year month day : Nat) : Prop :=
  (1 ≤ year ∧ year ≤ 9999) ∧ (1 ≤ month ∧ month ≤ 12) ∧ (1 ≤ day ∧ day ≤ daysInMonth year month)

instance (year month day : Nat) : Decidable (IsDate year month day) :=
  inferInstanceAs (Decidable (_ ∧ _))

/-- A day of the calendar. -/
structure Date where
  /-- The year, from 1 to 9999. -/
  year : Nat
  /-- The month, from 1 to 12. -/
  month : Nat
  /-- The day of the month, from 1. -/
  day : Nat
  /-- The numbers name a day of the calendar. -/
  valid : IsDate year month day
deriving DecidableEq

namespace Date

/-- The date that three numbers name. -/
def make? (year month day : Nat) : Option Date :=
  if valid : IsDate year month day then some ⟨year, month, day, valid⟩ else none

@[simp]
theorem make?_parts (date : Date) : make? date.year date.month date.day = some date := by
  simp [make?, date.valid]

/-- Checks that a part of a date fits into 32 bits. -/
def checkPart (part : Int) : Except CalendarError Unit :=
  if !Integer.isWord part then .error .partTooLong
  else if Integer.shortLimit ≤ part then .error .partTooLarge
  else if part < -Integer.shortLimit then .error .partTooSmall
  else .ok ()

/-- The date that three numbers name, or the first reason why they name none. -/
def ofParts (year month day : Int) : Except CalendarError Date := do
  checkPart year
  checkPart month
  checkPart day
  if year < 1 ∨ 9999 < year then
    throw (.yearOutOfRange year)
  if month < 1 ∨ 12 < month then
    throw .monthOutOfRange
  match make? year.toNat month.toNat day.toNat with
  | some date => pure date
  | none => throw .dayOutOfRange

/-- A number that orders dates: months of thirty-one days each. -/
def rank (date : Date) : Nat :=
  (date.year * 12 + (date.month - 1)) * 31 + (date.day - 1)

/-- Dates with one rank are equal. -/
theorem eq_of_rank_eq {first second : Date} (h : first.rank = second.rank) : first = second := by
  obtain ⟨year, month, day, valid⟩ := first
  obtain ⟨otherYear, otherMonth, otherDay, otherValid⟩ := second
  have bound := daysInMonth_le year month
  have otherBound := daysInMonth_le otherYear otherMonth
  simp only [rank] at h
  unfold IsDate at valid otherValid
  have : year = otherYear ∧ month = otherMonth ∧ day = otherDay := by omega
  obtain ⟨rfl, rfl, rfl⟩ := this
  rfl

instance : LE Date :=
  ⟨fun first second => first.rank ≤ second.rank⟩

instance (first second : Date) : Decidable (first ≤ second) :=
  inferInstanceAs (Decidable (first.rank ≤ second.rank))

theorem le_iff {first second : Date} : first ≤ second ↔ first.rank ≤ second.rank :=
  Iff.rfl

/-- The day after, unless this is the last date. -/
def next? (date : Date) : Option Date :=
  (make? date.year date.month (date.day + 1)).or
    ((make? date.year (date.month + 1) 1).or (make? (date.year + 1) 1 1))

/-- The day before, unless this is the first date. -/
def previous? (date : Date) : Option Date :=
  if 1 < date.day then make? date.year date.month (date.day - 1)
  else if 1 < date.month then
    make? date.year (date.month - 1) (daysInMonth date.year (date.month - 1))
  else make? (date.year - 1) 12 31

/-- The date a number of days later. -/
def after? : Nat → Date → Option Date
  | 0, date => some date
  | days + 1, date => (next? date).bind (after? days)

/-- The number of days since the first date. -/
def dayNumber (date : Date) : Nat :=
  let years := date.year - 1
  let months := (List.range (date.month - 1)).foldl
    (fun days index => days + daysInMonth date.year (index + 1)) 0
  years * 365 + years / 4 - years / 100 + years / 400 + months + (date.day - 1)

/-- The weekday, counted from Monday as zero; the first date is a Monday. -/
def weekday (date : Date) : Nat :=
  date.dayNumber % 7

/-- A number in decimal digits, with zeros in front up to a width. -/
def padded (width number : Nat) : List Char :=
  let digits := Nat.toDigits 10 number
  List.replicate (width - digits.length) '0' ++ digits

/-- Year, month and day, joined by hyphens. -/
def toText (date : Date) : List Char :=
  padded 4 date.year ++ '-' :: padded 2 date.month ++ '-' :: padded 2 date.day

/-- A number of exactly so many digits at the front of a text. -/
def readPadded? (width : Nat) (text : List Char) : Option (Nat × List Char) :=
  let digits := text.take width
  if digits.length = width ∧ digits.all Char.isDigit then
    some (Decimal.digitsValue digits, text.drop width)
  else
    none

/-- Cuts one character off the front of a text. -/
def dropChar? (expected : Char) : List Char → Option (List Char)
  | c :: rest => if c = expected then some rest else none
  | [] => none

/-- A date at the front of a text. -/
def readFront? (text : List Char) : Option (Date × List Char) := do
  let (year, rest) ← readPadded? 4 text
  let (month, rest) ← readPadded? 2 (← dropChar? '-' rest)
  let (day, rest) ← readPadded? 2 (← dropChar? '-' rest)
  return (← make? year month day, rest)

/-- The date that a text writes as year, month and day. -/
def read? (text : List Char) : Option Date := do
  let (date, rest) ← readFront? text
  if rest = [] then some date else none

end Date

/-- A moment of a clock, to the millionth of a second. -/
structure Instant where
  /-- The date. -/
  date : Date
  /-- The time of day in millionths of a second. -/
  timeOfDay : Nat
deriving DecidableEq

namespace Instant

/-- A number that orders moments. -/
def rank (instant : Instant) : Nat :=
  instant.date.rank * 86400000000 + instant.timeOfDay

/-- A fraction of a second in millionths, or zero where none is written. -/
def readFraction? : List Char → Option Nat
  | [] => some 0
  | '.' :: digits =>
      if digits ≠ [] ∧ digits.all Char.isDigit then
        some (Decimal.digitsValue ((digits ++ List.replicate 6 '0').take 6))
      else
        none
  | _ => none

/-- The moment that a text writes as a date, a `T` or a space, and a time of day. -/
def read? (text : List Char) : Option Instant := do
  let (date, rest) ← Date.readFront? text
  let rest ← (Date.dropChar? 'T' rest).or (Date.dropChar? ' ' rest)
  let (hour, rest) ← Date.readPadded? 2 rest
  let (minute, rest) ← Date.readPadded? 2 (← Date.dropChar? ':' rest)
  let (second, rest) ← Date.readPadded? 2 (← Date.dropChar? ':' rest)
  let fraction ← readFraction? rest
  return ⟨date, ((hour * 60 + minute) * 60 + second) * 1000000 + fraction⟩

end Instant

end Cashbook
