import Cashbook.Binary64.Reader

/-!
# Reading whole numbers

A whole number is a sign and digits of any script, with white space around them and underscores
between digits.  Numerals of more than 4300 digits are refused.
-/

namespace Cashbook.Integer

open Text

/-- The most digits that a whole number is read from. -/
def maxDigits : Nat :=
  4300

/-- The number written by a sign and digits, without anything around them. -/
def ofNumeral? (text : List Char) : Option Int :=
  let (negative, digits) := Decimal.readSign text
  if digits = [] ∨ maxDigits < digits.length then none
  else if digits.all isDigit then some (Decimal.signed negative (Decimal.digitsValue digits))
  else none

/-- The whole number that a text writes. -/
def read? (text : List Char) : Option Int :=
  (dropSeparators (trimBy isWhiteSpace text)).bind ofNumeral?

/-- The digits of a whole number, with a sign in front of a negative one. -/
def toText (number : Int) : List Char :=
  (if number < 0 then ['-'] else []) ++ Nat.toDigits 10 number.natAbs

/-- The first whole number that does not fit into 64 bits with a sign. -/
def wordLimit : Int :=
  9223372036854775808

/-- The first whole number that does not fit into 32 bits with a sign. -/
def shortLimit : Int :=
  2147483648

/-- Is the number one of the whole numbers of 64 bits with a sign? -/
def isWord (number : Int) : Bool :=
  decide (-wordLimit ≤ number ∧ number < wordLimit)

end Cashbook.Integer
