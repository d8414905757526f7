import Cashbook.Date.Phrase.Reading
import Cashbook.Text.Case

/-!
# Date phrases

A date phrase names a date in free form: the words `today`, `yesterday` and `tomorrow`, or numbers
and names as people write them.  Parts of the date that the phrase leaves open are taken from the
current day; a weekday without a day of the month means its next occurrence, which may be the
current day.
-/

namespace Cashbook.Date.Phrase

open Text

/-- Why a text does not name a date. -/
inductive PhraseError where
  /-- The phrase names no part of a date. -/
  | noDate
  /-- The phrase is not put together like a date. -/
  | unknownFormat
  /-- The numbers are no date or no time of day. -/
  | calendar (error : CalendarError)
deriving DecidableEq

/-- The wording of an error about a phrase.  The phrase is quoted behind what is wrong with it,
but not behind a number that is too large. -/
def PhraseError.message (phrase : List Char) : PhraseError → String
  | noDate => "String does not contain a date: " ++ String.ofList phrase
  | unknownFormat => "Unknown string format: " ++ String.ofList phrase
  | calendar error =>
      if error.isOverflow then error.message
      else error.message ++ ": " ++ String.ofList phrase

/-- Why reading a date fails. -/
inductive DateError where
  /-- The day before or after the current one does not exist. -/
  | outsideCalendar
  /-- The phrase names no date. -/
  | unreadable (phrase : List Char) (error : PhraseError)
  /-- A number in the phrase has too many digits to compute with. -/
  | arithmetic (error : Decimal.ArithmeticError)
  /-- The year of a month, moved next to the current year, lies before the year zero. -/
  | yearBeforeZero
deriving DecidableEq

/-- The wording about a phrase that names no date. -/
def unreadableMessage (phrase : List Char) (error : PhraseError) : String :=
  "Could not parse date '" ++ String.ofList phrase ++ "': " ++ error.message phrase

/-- Does the reading say nothing about a date or a time? -/
def saysNothing (reading : Reading) (resolved : Parts.Resolved) : Bool :=
  resolved.year.isNone && resolved.month.isNone && resolved.day.isNone && reading.weekday.isNone
    && reading.hour.isNone && reading.minute.isNone && reading.second.isNone

/-- Checks that a part of the time of day fits into 32 bits. -/
def checkTimePart (part : Option Nat) : Except CalendarError Unit :=
  match part with
  | some value => checkPart value
  | none => .ok ()

/-- Checks that a part of the time of day stays below its bound. -/
def checkBelow (part : Option Nat) (bound : Nat) (error : CalendarError) :
    Except CalendarError Unit :=
  match part with
  | some value => if value < bound then .ok () else .error error
  | none => .ok ()

/-- The day of the month where the phrase leaves it open: the current one, or the last one of a
shorter month. -/
def openDay (today : Date) (year month : Int) : Except CalendarError Nat :=
  if Integer.maxDigits < digitCount month.natAbs then .error .unwritableMonth
  else if month < 1 ∨ 12 < month then .error (.noSuchMonth month)
  else .ok (min today.day (monthLength year month))

/-- The next day with a weekday, counted from the given day on. -/
def nextWeekday (date : Date) (weekday : Nat) : Except CalendarError Date :=
  match after? ((7 - date.weekday + weekday) % 7) date with
  | some next => .ok next
  | none => .error .outsideCalendar

/-- The first number of days in either direction that two clocks are not apart. -/
def offsetLimit : Int :=
  1000000000

/-- Checks that a distance to world time in seconds is one between two clocks. -/
def checkOffset (offset : Option Int) : Except CalendarError Unit :=
  let days := (offset.getD 0).fdiv 86400
  if days < -Integer.shortLimit ∨ Integer.shortLimit ≤ days then .error .offsetTooLong
  else if days ≤ -offsetLimit ∨ offsetLimit ≤ days then .error (.offsetOutOfRange days)
  else .ok ()

/-- The date that the parts of a reading give.  The time of day must be one, too. -/
def dateOf (today : Date) (reading : Reading) (resolved : Parts.Resolved) :
    Except CalendarError Date := do
  let year : Int := resolved.year.getD today.year
  let month : Int := resolved.month.getD today.month
  let day ←
    match resolved.day with
    | some day => pure day
    | none => Int.ofNat <$> openDay today year month
  checkPart year
  checkPart month
  checkPart day
  checkTimePart reading.hour
  checkTimePart reading.minute
  checkTimePart reading.second
  let date ← ofParts year month day
  checkBelow reading.hour 24 .hourOutOfRange
  checkBelow reading.minute 60 .minuteOutOfRange
  checkBelow reading.second 60 .secondOutOfRange
  match reading.weekday with
  | some weekday =>
      if (resolved.day.getD 0) = 0 then nextWeekday date weekday else return date
  | none => return date

/-- The date that a reading gives.  The distance to world time must be one, unless the zone is named
world time; it does not move the date. -/
def build (today : Date) (reading : Reading) (resolved : Parts.Resolved) :
    Except CalendarError Date := do
  let date ← dateOf today reading resolved
  if !reading.zoneNamed then
    checkOffset reading.zoneOffset
  return date

/-- The year of a resolved date, in the century around the current year unless the phrase says
which one. -/
def fixYear (today : Date) (parts : Parts) (resolved : Parts.Resolved) :
    Except Obstacle Parts.Resolved :=
  if resolved.year.any (· < 0) then .error .yearBeforeZero
  else if parts.fullYear then .ok resolved
  else .ok { resolved with year := resolved.year.map (windowedYear today.year) }

/-- The date that the tokens of a phrase give. -/
def resolveTokens (today : Date) (text : List Token) :
    Except Obstacle (Except PhraseError Date) := do
  let reading ← readTokens today.year [] text {}
  let resolved ← fixYear today reading.parts (← reading.parts.resolve)
  if saysNothing reading resolved then
    return .error .noDate
  match build today reading resolved with
  | .ok date => return .ok date
  | .error error => return .error (.calendar error)

/-- The date that a phrase in small letters and without blanks around it names. -/
def readPhrase (today : Date) (phrase : List Char) : Except DateError Date :=
  match resolveTokens today (tokens phrase) with
  | .ok (.ok date) => .ok date
  | .ok (.error error) => .error (.unreadable phrase error)
  | .error .unknownFormat => .error (.unreadable phrase .unknownFormat)
  | .error (.arithmetic error) => .error (.arithmetic error)
  | .error .yearBeforeZero => .error .yearBeforeZero

/-- The date that a text names.  Blanks around it and letter case do not count.  The days around
the current one must exist whatever the text says. -/
def read (today : Date) (text : List Char) : Except DateError Date :=
  let phrase := lower (trim text)
  match today.previous?, today.next? with
  | some yesterday, some tomorrow =>
      if phrase = "today".toList then .ok today
      else if phrase = "yesterday".toList then .ok yesterday
      else if phrase = "tomorrow".toList then .ok tomorrow
      else readPhrase today phrase
  | _, _ => .error .outsideCalendar

end Cashbook.Date.Phrase
