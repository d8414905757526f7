import Cashbook.Binary64
import Cashbook.Decimal.Reader

/-!
# Reading binary numbers

The grammar of numerals for binary numbers: a sign; digits of any script with an optional point
and an optional exponent, where an underscore may stand between two digits; or a name of infinity
or of no number.  White space around the numeral does not count.
-/

namespace Cashbook.Text

/-- Removes the underscores of a numeral.  Each must stand between two digits. -/
def dropSeparatorsAfter : Bool → List Char → Option (List Char)
  | _, [] => some []
  | afterDigit, c :: rest =>
      if c = '_' then
        match rest with
        | next :: _ => if afterDigit && isDigit next then dropSeparatorsAfter false rest else none
        | [] => none
      else
        (dropSeparatorsAfter (isDigit c) rest).map (c :: ·)

/-- Removes the underscores of a numeral.  Each must stand between two digits. -/
def dropSeparators (text : List Char) : Option (List Char) :=
  dropSeparatorsAfter false text

end Cashbook.Text

namespace Cashbook.Binary64

open Text

/-- Is this the name of no number, letter case aside? -/
def isNotNumberName (text : List Char) : Bool :=
  text.map Char.toLower == "nan".toList

/-- The size nearest to a decimal numeral without its sign. -/
def ofNumeral? (negative : Bool) (text : List Char) : Option Binary64 :=
  let whole := text.takeWhile isDigit
  let afterWhole := text.dropWhile isDigit
  let (places, rest) :=
    match afterWhole with
    | '.' :: tail => (tail.takeWhile isDigit, tail.dropWhile isDigit)
    | tail => ([], tail)
  if whole = [] ∧ places = [] then
    none
  else
    (Decimal.readExponent rest).map fun exponent =>
      ofDecimal
        (.finite negative (Decimal.digitsValue (whole ++ places)) (exponent - places.length))

/-- The binary number that a text writes. -/
def read? (text : List Char) : Option Binary64 := do
  let numeral ← dropSeparators (trimBy isWhiteSpace text)
  let (negative, body) := Decimal.readSign numeral
  if Decimal.isInfinityName body then some (infinite negative)
  else if isNotNumberName body then some notNumber
  else ofNumeral? negative body

end Cashbook.Binary64
