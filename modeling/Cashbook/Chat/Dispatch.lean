import Cashbook.Chat.Command
import Cashbook.Chat.FreeText
import Cashbook.Ledger.Bindings
import Cashbook.Posting.Post
import Cashbook.Summary

/-!
# Answering chat messages

A message is answered for the owner that its chat is bound to.  A message without text or from an
unknown chat is turned away, a refusal or a failed write is told to the user, and whatever else
goes wrong is answered without detail.
-/

namespace Cashbook.Chat

open Call Text

/-- A message from a chat. -/
structure Message where
  /-- The chat, if it is known. -/
  chat : Option String
  /-- The text, if there is one. -/
  text : Option String
deriving DecidableEq

/-- The answer to a message. -/
structure Reply where
  /-- The text. -/
  text : String
  /-- The status: 200 for an answer, 400 for a message turned away, 500 for a defect. -/
  status : Nat := 200
deriving DecidableEq

/-- Answers with what is posted; a refusal or a failed write becomes the answer. -/
def orTold (post : Call String) : Call Reply :=
  tryCatch (do return { text := ← post }) fun failure =>
    match failure.family with
    | .internal => throw failure
    | _ => return { text := Wording.failure failure }

/-- Posts a draft; a refusal or a failed write becomes the answer. -/
def postDraft (context : OwnerContext) (draft : EntryDraft) : Call Reply :=
  orTold (draft.post context)

/-- Answers what a message asks for. -/
def answer (context : OwnerContext) (rules : List KeywordRule) : Intent → Call Reply
  | .addExpense amount description hint =>
      postDraft context
        { amount := amount
          description := String.ofList description
          category := hintedCategory context.categories hint }
  | .balance => do
      let lines := context.accounts.map fun account => (account.name, account.balance.toDecimal)
      return { text := ← ofArithmetic (Wording.balanceSummary lines) }
  | .report => do
      let report ← MonthlyReport.load context.owner (← get).today
      return { text := ← ofArithmetic (Wording.monthlyReport report.income report.expenses) }
  | .help => return { text := Wording.help }
  | .malformed complaint => return { text := complaint.message }
  | .freeText text =>
      match interpret text context.categories rules with
      | .ok draft => postDraft context draft
      | .error complaint => return { text := complaint.message }

/-- The binding of the chat that a message comes from. -/
def bindingOf (message : Message) : Call (Option Binding) := do
  match message.chat with
  | some chat => if chat = "" then return none else Binding.find chat
  | none => return none

/-- Answers a trimmed text for the owner that a chat is bound to. -/
def respondWith (text : List Char) (bound : Call (Option Binding))
    (answer : OwnerContext → Call Reply) : Call Reply := do
  if text = [] then
    return { text := Wording.noMessageText, status := 400 }
  match ← bound with
  | none => return { text := Wording.notConfigured, status := 400 }
  | some binding =>
      let context ← OwnerContext.load binding.owner
      answer context

/-- Answers a message, unless something goes wrong that no answer is for. -/
def respond (message : Message) (rules : List KeywordRule) : Call Reply :=
  let text := trim (message.text.getD "").toList
  respondWith text (bindingOf message) fun context => answer context rules (Intent.ofText text)

/-- Answers, whatever happens. -/
def orDefect (respond : Call Reply) : Call Reply :=
  tryCatch respond fun _ =>
    return { text := Wording.internalError, status := 500 }

/-- Answers a message, whatever happens. -/
def handle (message : Message) (rules : List KeywordRule) : Call Reply :=
  orDefect (respond message rules)

end Cashbook.Chat
