import Cashbook.Chat.CategoryHint
import Cashbook.Chat.Complaint
import Cashbook.Money.Amount
import Cashbook.Posting.Draft
import Cashbook.Text.Letter

/-!
# Expenses in plain words

A sentence such as `Gastei 30 reais no supermercado` is an expense.  Its first number is the
amount, which may stand behind `R$` and before a currency word.  The other words are the
description, without the verbs and prepositions at its start and the prepositions at its end.  The
keywords in the sentence choose the category.
-/

namespace Cashbook.Chat

open Text Money

/-- The groups of three digits with a point before each at the front of a text, and the rest. -/
def takeGroups : List Char → List Char × List Char
  | '.' :: first :: second :: third :: rest =>
      if isDigit first && isDigit second && isDigit third then
        let (groups, behind) := takeGroups rest
        ('.' :: first :: second :: third :: groups, behind)
      else
        ([], '.' :: first :: second :: third :: rest)
  | text => ([], text)

/-- Does a text begin with a digit? -/
def startsWithDigit : List Char → Bool
  | c :: _ => isDigit c
  | [] => false

/-- Does a text go on with digits, perhaps behind a point? -/
def goesOn : List Char → Bool
  | '.' :: rest => startsWithDigit rest
  | text => startsWithDigit text

/-- Decimal places behind one of the separators at the front of a text, and the rest. -/
def takePlaces (isSeparator : Char → Bool) : List Char → List Char × List Char
  | c :: rest =>
      if isSeparator c && startsWithDigit rest then
        (c :: rest.takeWhile isDigit, rest.dropWhile isDigit)
      else
        ([], c :: rest)
  | [] => ([], [])

/-- The number at the front of a text that begins with a digit, and the rest.  Points group
thousands when each has three digits behind it, at most three digits stand before the first, and
the number does not go on otherwise. -/
def takeNumber (text : List Char) : List Char × List Char :=
  let whole := text.takeWhile isDigit
  let rest := text.dropWhile isDigit
  let (groups, behind) := takeGroups rest
  if whole.length ≤ 3 ∧ groups ≠ [] ∧ !goesOn behind then
    let (places, behind) := takePlaces (· == ',') behind
    (whole ++ groups ++ places, behind)
  else
    let (places, behind) := takePlaces (fun c => c == '.' || c == ',') rest
    (whole ++ places, behind)

/-- A word at the front of a text, letter case aside, behind which no word goes on. -/
def dropWholeWord? (word text : List Char) : Option (List Char) :=
  match dropWord? word text with
  | some [] => some []
  | some (c :: rest) => if isWordChar c then none else some (c :: rest)
  | none => none

/-- A currency mark at the front of a text. -/
def dropCurrencyMark? (text : List Char) : Option (List Char) :=
  match dropWord? ['r'] text with
  | some ('$' :: rest) => some rest
  | _ => none

/-- The text behind a number, without blanks and a currency word or mark. -/
def dropCurrencyBehind (text : List Char) : List Char :=
  let rest := text.dropWhile isBlank
  (((dropWholeWord? "reais".toList rest).or (dropWholeWord? "real".toList rest)).or
    ((dropWholeWord? "brl".toList rest).or (dropCurrencyMark? rest))).getD rest

/-- The text from the number of a money expression on, if one stands at the front of a text. -/
def moneyFront? (text : List Char) : Option (List Char) :=
  if startsWithDigit text then some text
  else
    match dropCurrencyMark? text with
    | some rest =>
        let number := rest.dropWhile isBlank
        if startsWithDigit number then some number else none
    | none => none

/-- A sentence taken apart at its first money expression. -/
structure MoneyExpression where
  /-- The text before it. -/
  before : List Char
  /-- Its number. -/
  number : List Char
  /-- The text behind it. -/
  after : List Char
deriving DecidableEq

/-- The first money expression of a text. -/
def MoneyExpression.find? : List Char → Option MoneyExpression
  | [] => none
  | c :: rest =>
      match moneyFront? (c :: rest) with
      | some text =>
          let (number, behind) := takeNumber text
          some ⟨[], number, dropCurrencyBehind behind⟩
      | none =>
          (MoneyExpression.find? rest).map fun found => { found with before := c :: found.before }

/-- Are the points of a number only there to group thousands? -/
def isGrouped (number : List Char) : Bool :=
  let whole := number.takeWhile isDigit
  let (groups, behind) := takeGroups (number.dropWhile isDigit)
  decide (1 ≤ whole.length ∧ whole.length ≤ 3) && !groups.isEmpty &&
    match behind with
    | [] => true
    | ',' :: places => !places.isEmpty && places.all isDigit
    | _ => false

/-- The number without the points that group it. -/
def dropGrouping (number : List Char) : List Char :=
  if isGrouped number then number.filter (· ≠ '.') else number

/-- Verbs that say that money was spent. -/
def fillerVerbs : List String :=
  ["gastei", "comprei", "paguei", "despesa"]

/-- Words that join a description to the rest of its sentence. -/
def prepositions : List String :=
  ["no", "na", "em", "por", "com", "de", "do", "da"]

/-- Is the word listed, letter case aside? -/
def isListed (list : List String) (word : List Char) : Bool :=
  list.any fun entry => entry.toList == lower word

/-- The description of an expense of which nothing is said. -/
def defaultDescription : List Char :=
  "Despesa via Telegram".toList

/-- The words of a description: what remains at both ends without filling words. -/
def descriptionWords (text : List (List Char)) : List (List Char) :=
  let body := (text.dropWhile (isListed fillerVerbs)).dropWhile (isListed prepositions)
  (body.reverse.dropWhile (isListed prepositions)).reverse

/-- The description of an expense: the words around its money expression. -/
def describe (money : MoneyExpression) : List Char :=
  match descriptionWords (words (money.before ++ ' ' :: money.after)) with
  | [] => defaultDescription
  | body => joinWords body

/-- The amount of a money expression. -/
def amountOf (money : MoneyExpression) : Except Complaint Decimal :=
  match readAmount (dropGrouping money.number) with
  | .ok amount => if isWholeCents amount then .ok amount else .error .amountBelowCent
  | .error _ => .error .amountNotFound

/-- The expense that a sentence tells of. -/
def interpret (text : List Char) (categories : List Category) (rules : List KeywordRule) :
    Except Complaint EntryDraft :=
  match MoneyExpression.find? text with
  | none => .error .amountNotFound
  | some money => do
      let amount ← amountOf money
      let category := (classify rules text).bind fun hint => hintedCategory categories hint.toList
      let description := String.ofList (describe money)
      return { amount := amount, description := description, category := category }

end Cashbook.Chat
