import Cashbook.Chat.Dispatch

/-!
# Torn messages

A message from outside may have a chat or a text with halves of surrogate pairs.  Such a chat cannot
be looked up.  Such a text is read like any other, so that a balance can be asked for; but an entry
cannot be written when a half has come into its description, and a hint with a half is part of no
name.  Whether a half has come into a part of what a text asks for shows when the text is read
twice, with one character and with another in the places of the halves.
-/

namespace Cashbook.Chat

open Call Text

/-- A message whose chat and text may hold halves of surrogate pairs. -/
structure LooseMessage where
  /-- The chat, if it is known. -/
  chat : Option LooseText
  /-- The text, if there is one. -/
  text : Option LooseText
deriving DecidableEq

namespace LooseMessage

/-- The message, if it holds no halves. -/
def whole? (message : LooseMessage) : Option Message := do
  let chat ← message.chat.mapM LooseText.whole?
  let text ← message.text.mapM LooseText.whole?
  return ⟨chat, text⟩

/-- The binding of the chat that a message comes from. -/
def bindingOf (message : LooseMessage) : Call (Option Binding) :=
  match message.chat.mapM LooseText.whole? with
  | some chat => Chat.bindingOf ⟨chat, none⟩
  | none => do
      failAt .bindingLookup .crash
      throw .tornText

/-- The trimmed text with a character in the place of each half. -/
def trimmedWith (c : Char) (message : LooseMessage) : List Char :=
  trim ((message.text.map (LooseText.filledWith c)).getD [])

end LooseMessage

/-- Answers what a text asks for when it is read with a character in the place of each half, next to
what it asks for with another one. -/
def answerTorn (context : OwnerContext) (rules : List KeywordRule) : Intent → Intent → Call Reply
  | .addExpense amount description hint, .addExpense _ otherDescription otherHint =>
      let hint := if hint = otherHint then hint else []
      if description = otherDescription then
        answer context rules (.addExpense amount description hint)
      else
        orTold (EntryDraft.postTorn
          { amount := amount
            description := String.ofList description
            category := hintedCategory context.categories hint } context)
  | .freeText text, _ =>
      -- A half is no part of an amount, so that it comes into the description.
      match interpret text context.categories rules with
      | .ok draft => orTold (draft.postTorn context)
      | .error complaint => return { text := complaint.message }
  | intent, _ => answer context rules intent

/-- Answers a torn message, unless something goes wrong that no answer is for. -/
def respondTorn (message : LooseMessage) (rules : List KeywordRule) : Call Reply :=
  let text := message.trimmedWith '\ufffc'
  let other := message.trimmedWith '\ufffd'
  respondWith text message.bindingOf fun context =>
    answerTorn context rules (Intent.ofText text) (Intent.ofText other)

/-- Answers a message from outside, whatever happens. -/
def handleLoose (message : LooseMessage) (rules : List KeywordRule) : Call Reply :=
  match message.whole? with
  | some whole => handle whole rules
  | none => orDefect (respondTorn message rules)

end Cashbook.Chat
