import Cashbook.Decimal
import Cashbook.Text.Blank
import Cashbook.Text.Digit

/-!
# Reading decimal numbers

The grammar of decimal numerals: a sign, digits of any script with an optional point, an optional
exponent; or a name of infinity or of no number.  Blanks around the numeral and underscores
anywhere in it do not count.  The value is exact, so the exponent must stay in a wide range.
-/

namespace Cashbook.Decimal

open Text

/-- Why a text is no decimal number. -/
inductive ReadError where
  /-- The text does not follow the grammar. -/
  | malformed
  /-- The exponent leaves the range of exact numbers. -/
  | outOfRange
deriving DecidableEq

/-- The largest exponent of a first digit that can be read. -/
def maxReadExponent : Int :=
  999999999999999999

/-- The smallest exponent that can be read. -/
def minReadExponent : Int :=
  -1999999999999999997

/-- The number that a row of digits writes; other characters count as zero. -/
def digitsValue (digits : List Char) : Nat :=
  digits.foldl (fun value c => value * 10 + (digitValue? c).getD 0) 0

/-- A sign in front of a numeral: is it negative, and what follows? -/
def readSign : List Char → Bool × List Char
  | '-' :: rest => (true, rest)
  | '+' :: rest => (false, rest)
  | text => (false, text)

/-- An exponent, or nothing where none stands. -/
def readExponent : List Char → Option Int
  | [] => some 0
  | c :: rest =>
      if c = 'e' ∨ c = 'E' then
        let (negative, digits) := readSign rest
        if digits ≠ [] ∧ digits.all isDigit then
          some (if negative then -(digitsValue digits : Int) else digitsValue digits)
        else
          none
      else
        none

/-- A finite number, if its exponent is in range. -/
def ranged (negative : Bool) (coefficient : Nat) (exponent : Int) : Except ReadError Decimal :=
  let top := if coefficient = 0 then exponent else leadingExponent coefficient exponent
  if exponent < minReadExponent ∨ maxReadExponent < top then .error .outOfRange
  else .ok (finite negative coefficient exponent)

/-- A number without its sign. -/
def readNumeral (negative : Bool) (text : List Char) : Except ReadError Decimal :=
  let whole := text.takeWhile isDigit
  let afterWhole := text.dropWhile isDigit
  let (places, rest) :=
    match afterWhole with
    | '.' :: tail => (tail.takeWhile isDigit, tail.dropWhile isDigit)
    | tail => ([], tail)
  if whole = [] ∧ places = [] then
    .error .malformed
  else
    match readExponent rest with
    | some exponent => ranged negative (digitsValue (whole ++ places)) (exponent - places.length)
    | none => .error .malformed

/-- The name of no number, with a payload, letter case aside. -/
def readNotNumber? (negative : Bool) (text : List Char) : Option Decimal :=
  let small := text.map Char.toLower
  let (signaling, rest) :=
    match small with
    | 's' :: tail => (true, tail)
    | tail => (false, tail)
  match rest with
  | 'n' :: 'a' :: 'n' :: payload =>
      if payload.all isDigit then some (notNumber negative signaling (digitsValue payload))
      else none
  | _ => none

/-- Is this a name of infinity, letter case aside? -/
def isInfinityName (text : List Char) : Bool :=
  let small := text.map Char.toLower
  small == "inf".toList || small == "infinity".toList

/-- The decimal number that a text writes. -/
def read (text : List Char) : Except ReadError Decimal :=
  let (negative, body) := readSign ((trim text).filter (· != '_'))
  if isInfinityName body then .ok (infinite negative)
  else
    match readNotNumber? negative body with
    | some value => .ok value
    | none => readNumeral negative body

end Cashbook.Decimal
