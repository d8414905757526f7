import Cashbook.Binary64.Shortest
import Cashbook.Integer
import Cashbook.Json
import Cashbook.Text.Blank

/-!
# The body of a transfer request

The body names two accounts and an amount, and may say what the transfer is for.  Numbers may be
written as texts without halves of surrogate pairs.  An account is a whole number; an amount is
finite and shows at most two decimal places once its trailing zeros are dropped.
-/

namespace Cashbook

open Text

/-- The body of a transfer request. -/
structure TransferBody where
  /-- The account that the money leaves. -/
  source : Int
  /-- The account that the money comes to. -/
  target : Int
  /-- The amount. -/
  amount : Decimal
  /-- What it is for. -/
  description : Option LooseText
deriving DecidableEq

namespace TransferBody

/-- Is this a digit other than zero? -/
def isLeadingDigit (c : Char) : Bool :=
  c.isDigit && c != '0'

/-- A numeral without the zeros at its front, between which underscores may stand.  One zero stays
where nothing but decimal places follows, and a minus sign may stand behind the zeros, too. -/
def dropLeadingZeros? : List Char → Option (List Char)
  | '0' :: rest =>
      let filling := rest.takeWhile fun c => c == '0' || c == '_'
      let last := filling.getLastD '0'
      match rest.drop filling.length with
      | [] => some [last]
      | c :: tail =>
          if c = '.' then some (last :: c :: tail)
          else if c = '-' || isLeadingDigit c then some (c :: tail)
          else none
  | c :: rest => if c = '-' || isLeadingDigit c then some (c :: rest) else none
  | [] => none

/-- A numeral without decimal places, of which there is at least one behind a point and which are
all zero. -/
def dropZeroPlaces? (text : List Char) : Option (List Char) :=
  match text.dropWhile (· != '.') with
  | [] => some text
  | _ :: places =>
      if places ≠ [] ∧ places.all (· == '0') then some (text.takeWhile (· != '.')) else none

/-- Do underscores stand next to each other? -/
def hasDoubleUnderscore : List Char → Bool
  | '_' :: '_' :: _ => true
  | _ :: rest => hasDoubleUnderscore rest
  | [] => false

/-- Digits without their underscores, which stand alone and neither first nor last. -/
def dropUnderscores? (digits : List Char) : Option (List Char) :=
  if digits.head? = some '_' ∨ digits.getLast? = some '_' ∨ hasDoubleUnderscore digits then none
  else some (digits.filter (· != '_'))

/-- A numeral without a plus sign, which no minus sign may follow. -/
def dropPlus? : List Char → Option (List Char)
  | '+' :: '-' :: _ => none
  | '+' :: rest => some rest
  | text => some text

/-- The whole number of digits behind a sign, or of digits alone.  A sign counts as one of the
characters that a numeral may have at most. -/
def readSigned? (sign digits : List Char) : Option Int := do
  let digits ← dropUnderscores? digits
  if digits ≠ [] ∧ digits.all Char.isDigit ∧ sign.length + digits.length ≤ Integer.maxDigits then
    Integer.ofNumeral? (sign ++ digits)
  else
    none

/-- The whole number that a text writes. -/
def readWhole? (text : List Char) : Option Int := do
  let text ← dropPlus? (trimBy isWhiteSpace text)
  match ← dropZeroPlaces? (← dropLeadingZeros? text) with
  | '-' :: digits => readSigned? ['-'] digits
  | digits => readSigned? [] digits

/-- The number of an account. -/
def accountOf? : Json → Option Int
  | .whole value => some value
  | .bool value => some (if value then 1 else 0)
  | .binary value => do
      let value ← value.toInt?
      if -Integer.wordLimit < value ∧ value < Integer.wordLimit then some value else none
  | .text value => do readWhole? (← value.whole?).toList
  | _ => none

/-- The decimal number that a value writes. -/
def decimalOf? : Json → Option Decimal
  | .whole value => some (.ofInt value)
  | .binary value => (Decimal.read value.toText).toOption
  | .text value => do (Decimal.read (← value.whole?).toList).toOption
  | _ => none

/-- The amount of a transfer. -/
def amountOf? (value : Json) : Option Decimal := do
  let amount ← decimalOf? value
  if amount.isFinite ∧ amount.significantPlaces ≤ 2 then some amount else none

/-- The description of a transfer, if a body that says nothing or a text has one. -/
def descriptionOf? : Option Json → Option (Option LooseText)
  | none | some .null => some none
  | some (.text value) => some (some value)
  | some _ => none

/-- The body that a value is. -/
def ofJson? (value : Json) : Option TransferBody := do
  let source ← accountOf? (← value.member? "from_account")
  let target ← accountOf? (← value.member? "to_account")
  let amount ← amountOf? (← value.member? "amount")
  let description ← descriptionOf? (value.member? "description")
  return ⟨source, target, amount, description⟩

end TransferBody

end Cashbook
