import Cashbook.Chat.Torn
import Cashbook.Json.Printer

/-!
# Updates of the messenger

The messenger wraps a message into an update, an object whose member `message` holds the text and
the chat.  Whatever has another shape carries no chat or no text.
-/

namespace Cashbook.Chat.LooseMessage

/-- The chat that a message names; any value but null is a name, spelled out. -/
def chatOf (message : Json) : Option LooseText := do
  match ← (← message.member? "chat").member? "id" with
  | .null => none
  | id => some id.spelledOut

/-- The message that an update carries. -/
def ofUpdate (update : Json) : LooseMessage :=
  match update.member? "message" with
  | some message => ⟨chatOf message, (message.member? "text").bind Json.text?⟩
  | none => ⟨none, none⟩

end Cashbook.Chat.LooseMessage
