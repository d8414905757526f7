import Cashbook.Chat.Complaint
import Cashbook.Money.Amount
import Cashbook.Text.Search

/-!
# Chat commands

A command is a first word with a slash and a keyword, behind which an address may stand:

* `/add` with an amount, a description and a word that the category's name contains;
* `/balance` or `/saldo`;
* `/report` or `/relatorio`;
* `/help` or `/start`.

Every other text is no command.
-/

namespace Cashbook.Chat

open Text Money

/-- What a message asks for. -/
inductive Intent where
  /-- An expense, with a word that the category's name contains. -/
  | addExpense (amount : Decimal) (description hint : List Char)
  /-- The balances. -/
  | balance
  /-- The report on the current month. -/
  | report
  /-- The list of commands. -/
  | help
  /-- A command that is not understood. -/
  | malformed (complaint : Complaint)
  /-- A text that is no command. -/
  | freeText (text : List Char)
deriving DecidableEq

/-- The keywords of commands. -/
inductive Keyword where
  | add
  | balance
  | report
  | help
deriving DecidableEq

/-- The keyword that a name stands for. -/
def Keyword.ofName? (name : List Char) : Option Keyword :=
  if name = "add".toList then some add
  else if name = "balance".toList ∨ name = "saldo".toList then some balance
  else if name = "report".toList ∨ name = "relatorio".toList then some report
  else if name = "help".toList ∨ name = "start".toList then some help
  else none

/-- The keyword of a first word, without the address behind it. -/
def Keyword.ofWord? : List Char → Option Keyword
  | '/' :: rest => Keyword.ofName? (rest.takeWhile (· ≠ '@'))
  | _ => none

/-- The parts of a command to add an expense.  With one word behind the amount, the word is both
the description and the hint. -/
def Intent.ofAddWords : List (List Char) → Intent
  | amountWord :: first :: rest =>
      match readCommandAmount amountWord with
      | .ok amount =>
          let hint := (first :: rest).getLast (by simp)
          let description := if rest = [] then first else joinWords (first :: rest).dropLast
          addExpense amount description hint
      | .error _ => malformed .commandAmount
  | _ => malformed .addUsage

/-- What a text asks for. -/
def Intent.ofText (text : List Char) : Intent :=
  match words text with
  | [] => freeText text
  | first :: rest =>
      match Keyword.ofWord? first with
      | some .add => Intent.ofAddWords rest
      | some .balance => balance
      | some .report => report
      | some .help => help
      | none => freeText text

end Cashbook.Chat
