import Cashbook.Ledger.World

/-!
# Credit cards of an owner
-/

namespace Cashbook.Card

open Call

/-- Writes a card and gives its number. -/
def create (owner name brand : String) (limit : Decimal) (closingDay dueDay : Int) : Call Int :=
  atomically do
    checkQuiet limit
    checkWord closingDay
    checkWord dueDay
    let amount ← storable "cards.credit_limit" limit
    let current ← ledger
    let id := Ledger.nextId (current.cards.map Card.id)
    putLedger { current with
      cards := current.cards ++ [⟨id, owner, name, brand, amount, closingDay, dueDay, true⟩] }
    return id

/-- The card of an owner with a number. -/
def find (owner : String) (id : Int) : Call (Option Card) := do
  checkWord id
  return (← ledger).cards.find? fun card => card.id = id ∧ card.owner = owner

end Cashbook.Card
