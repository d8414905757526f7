import Cashbook.Date
import Cashbook.Date.Phrase.Vocabulary
import Cashbook.Decimal.Arithmetic
import Cashbook.Integer

/-!
# Year, month and day in a date phrase

The numbers of a date are collected in the order they stand in.  A month name and a number that
can only be a year are marked as such.  In the end the numbers are told apart by these marks, by
their size and by their order: month, day, year unless the first number is too large for that.
-/

namespace Cashbook.Date.Phrase

open Text

/-- Why a phrase gives no date. -/
inductive Obstacle where
  /-- The phrase is not put together like a date. -/
  | unknownFormat
  /-- A number in the phrase has too many digits to compute with. -/
  | arithmetic (error : Decimal.ArithmeticError)
  /-- The year of a month, moved next to the current year, lies before the year zero. -/
  | yearBeforeZero
deriving DecidableEq

/-- The numbers of a date, with marks for the year and the month. -/
structure Parts where
  /-- The numbers in the order they stand in. -/
  values : List Int := []
  /-- The place of the number that can only be a year. -/
  yearAt : Option Nat := none
  /-- The place of the month given by name. -/
  monthAt : Option Nat := none
  /-- Is the year written with its century? -/
  fullYear : Bool := false

/-- The number that a token writes, if all of it are digits. -/
def natOf (token : Token) : Except Obstacle Nat :=
  match Integer.ofNumeral? token with
  | some number =>
      if token.all isDigit then .ok number.toNat else .error .unknownFormat
  | none => .error .unknownFormat

/-- The length of a month in any year, also outside the calendar: leap years recur after four
hundred years. -/
def monthLength (year month : Int) : Nat :=
  daysInMonth (year % 400).toNat month.toNat

namespace Parts

/-- Adds a number without a mark. -/
def push (parts : Parts) (value : Int) : Parts :=
  { parts with values := parts.values ++ [value] }

/-- Adds a number as the year. -/
def pushYear (parts : Parts) (value : Int) : Except Obstacle Parts :=
  if parts.yearAt.isSome then .error .unknownFormat
  else .ok { parts.push value with yearAt := some parts.values.length }

/-- Adds a month given by name. -/
def pushMonth (parts : Parts) (month : Nat) : Except Obstacle Parts :=
  if parts.monthAt.isSome then .error .unknownFormat
  else .ok { parts.push month with monthAt := some parts.values.length }

/-- Is the token written as more than two digits? -/
def isLong (token : Token) : Bool :=
  token.all showsDigit && decide (2 < token.length)

/-- Adds a number as it is written: more than two digits make it the year. -/
def pushToken (parts : Parts) (token : Token) : Except Obstacle Parts := do
  let value ← natOf token
  if isLong token then
    ({ parts with fullYear := true } : Parts).pushYear value
  else
    return parts.push value

/-- Adds a year of four digits. -/
def pushYearToken (parts : Parts) (token : Token) : Except Obstacle Parts := do
  let value ← natOf token
  ({ parts with fullYear := parts.fullYear || isLong token } : Parts).pushYear value

/-- Adds a number by its value: above one hundred it is the year. -/
def pushNumber (parts : Parts) (value : Decimal) : Except Obstacle Parts :=
  if value.order? (.ofInt 100) = some .gt then
    ({ parts with fullYear := true } : Parts).pushYear value.wholePart
  else
    .ok (parts.push value.wholePart)

/-- Adds a year that is known with its century, which is written out if it has more than two
digits. -/
def pushFullYear (parts : Parts) (year : Int) : Except Obstacle Parts :=
  ({ parts with fullYear := parts.fullYear || decide (99 < year) } : Parts).pushYear year

/-- Could the number be the day, given the month and the year so far?  Without a year the longest
form of the month counts. -/
def couldBeDay (parts : Parts) (value : Decimal) : Bool :=
  let at? (place : Option Nat) : Option Int := place.bind fun index => parts.values[index]?
  let last :=
    match at? parts.monthAt, at? parts.yearAt with
    | none, _ => 31
    | some month, none => monthLength 2000 month
    | some month, some year => monthLength year month
  value.order? (.ofInt 1) != some .lt && value.order? (.ofInt last) != some .gt

/-- A date of which some parts may be open. -/
structure Resolved where
  /-- The year, if it is given. -/
  year : Option Int := none
  /-- The month, if it is given. -/
  month : Option Int := none
  /-- The day, if it is given. -/
  day : Option Int := none

/-- Two numbers without a month name. -/
def resolveTwo (first second : Int) : Resolved :=
  if 31 < first then { year := first, month := second }
  else if 31 < second then { month := first, year := second }
  else { month := first, day := second }

/-- Three numbers with a month name at one place. -/
def resolveNamed (place : Nat) (first second third : Int) : Resolved :=
  if place = 0 then
    if 31 < second then { month := first, year := second, day := third }
    else { month := first, day := second, year := third }
  else if place = 1 then
    if 31 < first then { year := first, month := second, day := third }
    else { day := first, month := second, year := third }
  else
    if 31 < second then { day := first, year := second, month := third }
    else { year := first, day := second, month := third }

/-- Three numbers without a month name. -/
def resolveThree (yearFirst : Bool) (first second third : Int) : Resolved :=
  if 31 < first ∨ yearFirst then { year := first, month := second, day := third }
  else if 12 < first then { day := first, month := second, year := third }
  else { month := first, day := second, year := third }

/-- One number and perhaps a month name beside it. -/
def resolveBeside (month : Option Int) (other : Int) : Resolved :=
  if 31 < other then { month := month, year := other } else { month := month, day := other }

/-- Tells the numbers apart.  When the year and the month are marked among three numbers, the
third is the day. -/
def resolve (parts : Parts) : Except Obstacle Resolved :=
  match parts.values, parts.yearAt, parts.monthAt with
  | [], _, _ => .ok {}
  | [value], some _, none => .ok { year := value }
  | [value], _, some _ => .ok { month := value }
  | [value], none, none => .ok (resolveBeside none value)
  | [first, second], some _, some 0 => .ok { month := first, year := second }
  | [first, second], some _, some _ => .ok { year := first, month := second }
  | [first, second], none, some 0 => .ok (resolveBeside (some first) second)
  | [first, second], none, some _ => .ok (resolveBeside (some second) first)
  | [first, second], _, none => .ok (resolveTwo first second)
  | [first, second, third], some 0, some 1 => .ok { year := first, month := second, day := third }
  | [first, second, third], some 0, some _ => .ok { year := first, day := second, month := third }
  | [first, second, third], some 1, some 0 => .ok { month := first, year := second, day := third }
  | [first, second, third], some 1, some _ => .ok { day := first, year := second, month := third }
  | [first, second, third], some _, some 0 => .ok { month := first, day := second, year := third }
  | [first, second, third], some _, some _ => .ok { day := first, month := second, year := third }
  | [first, second, third], none, some place => .ok (resolveNamed place first second third)
  | [first, second, third], year, none => .ok (resolveThree (year = some 0) first second third)
  | _, _, _ => .error .unknownFormat

end Parts

/-- A year of two digits moved next to the current year, at most fifty years away.  Near the year
zero it may become negative. -/
def windowedYear (currentYear : Nat) (year : Int) : Int :=
  if year < 100 then
    let moved := year + currentYear / 100 * 100
    if currentYear + 50 ≤ moved then moved - 100
    else if moved + 50 < currentYear then moved + 100
    else moved
  else
    year

end Cashbook.Date.Phrase
