import Cashbook.Ledger.World

/-!
# Chats and their owners

Each chat has at most one binding row, which tells the owner it was bound to last.  A binding that
is switched off is not found, and binding the chat again switches it on.
-/

namespace Cashbook.Binding

open Call

/-- The active binding of a chat. -/
def find (chat : String) : Call (Option Binding) := do
  failAt .bindingLookup .crash
  return (← ledger).bindings.find? fun binding => binding.chat = chat ∧ binding.active

/-- The bindings after a chat was bound to an owner, and the number of its row. -/
def assigned (owner chat : String) (bindings : List Binding) : Int × List Binding :=
  match bindings.find? fun binding => binding.chat = chat with
  | some binding =>
      (binding.id, bindings.map fun other =>
        if other.id = binding.id then { other with owner := owner, active := true } else other)
  | none =>
      let id := Ledger.nextId (bindings.map Binding.id)
      (id, bindings ++ [⟨id, owner, chat, true⟩])

/-- Binds a chat to an owner and gives the number of its row. -/
def assign (owner chat : String) : Call Int :=
  atomically do
    let current ← ledger
    let (id, bindings) := assigned owner chat current.bindings
    putLedger { current with bindings := bindings }
    return id

/-- Switches a binding off. -/
def deactivate (id : Int) : Call Unit := do
  checkWord id
  changeLedger fun current => { current with
    bindings := current.bindings.map fun binding =>
      if binding.id = id then { binding with active := false } else binding }

end Cashbook.Binding
