import Cashbook.Decimal.Arithmetic
import Cashbook.Decimal.Printer
import Cashbook.Decimal.Reader
import Cashbook.Text.Search

/-!
# Amounts of money

Amounts are decimal numbers.  People write them with a currency mark, with points or commas that
group thousands, and with a point or a comma before the cents: the separator that comes last is
the decimal one.  Chat commands take a stricter form.  An amount can be stored exactly when it is
a whole number of cents of at most 28 digits.
-/

namespace Cashbook.Money

open Text

/-- Why a text is no amount. -/
inductive AmountError where
  /-- There is nothing but blanks. -/
  | empty
  /-- What is left without currency marks and grouping is no decimal number. -/
  | unreadable (numeral : List Char) (error : Decimal.ReadError)
  /-- The number is infinite or no number. -/
  | notFinite (numeral : List Char)
deriving DecidableEq

/-- How a reading error of a number is shown. -/
def readErrorText : Decimal.ReadError → String
  | .malformed => "InvalidOperation([<class 'decimal.ConversionSyntax'>])"
  | .outOfRange => "InvalidOperation([<class 'decimal.InvalidOperation'>])"

/-- The wording of an error about an amount. -/
def AmountError.message : AmountError → String
  | empty => "Empty amount string"
  | unreadable numeral error =>
      "Could not parse amount '" ++ String.ofList numeral ++ "': " ++ readErrorText error
  | notFinite numeral => "Could not parse amount '" ++ String.ofList numeral ++ "'"

/-- The text without currency marks: `R$` in either case, and the dollar, euro and pound signs. -/
def dropCurrency : List Char → List Char
  | [] => []
  | [c] => if c = '$' ∨ c = '€' ∨ c = '£' then [] else [c]
  | c :: next :: rest =>
      if (c = 'r' ∨ c = 'R') ∧ next = '$' then dropCurrency rest
      else if c = '$' ∨ c = '€' ∨ c = '£' then dropCurrency (next :: rest)
      else c :: dropCurrency (next :: rest)

/-- The numeral with a point before its places and without grouping: the last of points and commas
is the decimal separator. -/
def normalizeSeparators (numeral : List Char) : List Char :=
  if lastIs ',' '.' numeral then
    (numeral.filter (· ≠ '.')).map fun c => if c = ',' then '.' else c
  else
    numeral.filter (· ≠ ',')

/-- The numeral of an amount: the text without currency marks, grouping and blanks. -/
def numeralOf (text : List Char) : List Char :=
  normalizeSeparators (trim (dropCurrency (trim text)))

/-- The amount that a text writes. -/
def readAmount (text : List Char) : Except AmountError Decimal :=
  if trim text = [] then .error .empty
  else
    let numeral := numeralOf text
    match Decimal.read numeral with
    | .ok amount => if amount.isFinite then .ok amount else .error (.notFinite numeral)
    | .error error => .error (.unreadable numeral error)

/-- Is the amount a whole number of cents that can be stored? -/
def isWholeCents (amount : Decimal) : Bool :=
  match amount.toCents with
  | .ok cents => amount.order? cents == some .eq
  | .error _ => false

/-- Why a word of a chat command is no amount. -/
inductive CommandAmountError where
  /-- The word is no plain number. -/
  | notPlain
  /-- The number is no whole number of cents. -/
  | fractionOfCent
deriving DecidableEq

/-- The wording of an error about an amount in a command. -/
def CommandAmountError.message (word : List Char) : CommandAmountError → String
  | notPlain => "Invalid amount '" ++ String.ofList word ++ "'"
  | fractionOfCent => "Amount '" ++ String.ofList word ++ "' has fractions of a cent"

/-- Is the word made of digits with at most one point, which has digits on both sides? -/
def isPlain (word : List Char) : Bool :=
  let whole := word.takeWhile isDigit
  !whole.isEmpty &&
    match word.dropWhile isDigit with
    | [] => true
    | '.' :: places => !places.isEmpty && places.all isDigit
    | _ => false

/-- The word without a line end behind it. -/
def dropLineEnd (word : List Char) : List Char :=
  if word.getLast? = some '\n' then word.dropLast else word

/-- The amount that a word of a chat command writes: a plain number of whole cents. -/
def readCommandAmount (word : List Char) : Except CommandAmountError Decimal :=
  if isPlain (dropLineEnd word) then
    match Decimal.read word with
    | .ok amount => if isWholeCents amount then .ok amount else .error .fractionOfCent
    | .error _ => .error .notPlain
  else
    .error .notPlain

/-- An amount in reais, with two places. -/
def inReais (amount : Decimal) : String :=
  "R$ " ++ String.ofList amount.toFixedText

end Cashbook.Money
