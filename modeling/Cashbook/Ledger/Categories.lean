import Cashbook.Ledger.World

/-!
# Categories of an owner

Categories are listed by name in the order of characters, and by number where names agree.
-/

namespace Cashbook.Category

open Call

/-- Is the first category listed before the second? -/
def listedBefore (first second : Category) : Bool :=
  decide (first.name < second.name) || (first.name == second.name && decide (first.id ≤ second.id))

/-- The categories of an owner in a ledger, by name. -/
def allOf (ledger : Ledger) (owner : String) : List Category :=
  (ledger.categories.filter fun category => category.owner = owner).mergeSort listedBefore

/-- Writes a category and gives its number. -/
def create (owner name : String) (kind : CategoryKind) : Call Int :=
  atomically do
    let current ← ledger
    let id := Ledger.nextId (current.categories.map Category.id)
    putLedger { current with categories := current.categories ++ [⟨id, owner, name, kind⟩] }
    return id

/-- The categories of an owner, by name. -/
def list (owner : String) : Call (List Category) := do
  return allOf (← ledger) owner

end Cashbook.Category
