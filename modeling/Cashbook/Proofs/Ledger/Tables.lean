import Cashbook.Ledger.Entities
import Mathlib.Data.List.Basic
import Mathlib.Data.List.Nodup
import Mathlib.Order.Lattice
import Mathlib.Order.Nat

/-!
# The tables of a ledger

The number of a new row is larger than those of all rows before it.  An account is looked up by its
owner and its number; another balance for one account changes what is found there and nowhere else.
-/

namespace Cashbook.Ledger

open Money

variable {ledger : Ledger} {owner otherOwner : String} {id otherId : Int} {account : Account}
  {balance : Stored}

/-! ## Numbers of rows -/

theorem le_foldl_max (ids : List Int) (least : Int) : least ≤ ids.foldl max least := by
  induction ids generalizing least with
  | nil => exact le_rfl
  | cons id rest ih => exact (le_max_left ..).trans (ih (max least id))

theorem le_foldl_max_of_mem {ids : List Int} (member : id ∈ ids) (least : Int) :
    id ≤ ids.foldl max least := by
  induction ids generalizing least with
  | nil => cases member
  | cons first rest ih =>
      rcases List.mem_cons.mp member with rfl | later
      · exact (le_max_right ..).trans (le_foldl_max rest _)
      · exact ih later _

/-- A new row has a larger number than every row before it. -/
theorem lt_nextId {ids : List Int} (member : id ∈ ids) : id < nextId ids :=
  Int.lt_add_one_of_le (le_foldl_max_of_mem member 0)

/-- Are numbers above all that are taken, in rising order? -/
structure AreNew (taken ids : List Int) : Prop where
  above : ∀ id ∈ ids, ∀ other ∈ taken, other < id
  rising : ids.Pairwise (· < ·)

theorem areNew_nil (taken : List Int) : AreNew taken [] :=
  ⟨by simp, .nil⟩

/-- New numbers behind another new one are new where that one is not taken yet, too. -/
theorem AreNew.cons {taken ids : List Int} {id : Int} (new : ∀ other ∈ taken, other < id)
    (rest : AreNew (taken ++ [id]) ids) : AreNew taken (id :: ids) where
  above := by
    rw [List.forall_mem_cons]
    exact ⟨new, fun later member other taken =>
      rest.above later member other (List.mem_append_left _ taken)⟩
  rising := by
    rw [List.pairwise_cons]
    exact ⟨fun later member => rest.above later member id (by simp), rest.rising⟩

/-- Numbers that are new behind other new ones are new together with these. -/
theorem AreNew.append {taken ids more : List Int} (new : AreNew taken ids)
    (later : AreNew (taken ++ ids) more) : AreNew taken (ids ++ more) where
  above := by
    rw [List.forall_mem_append]
    exact ⟨new.above, fun id member other earlier =>
      later.above id member other (List.mem_append_left _ earlier)⟩
  rising := by
    rw [List.pairwise_append]
    exact ⟨new.rising, later.rising, fun other earlier id member =>
      later.above id member other (List.mem_append_right _ earlier)⟩

/-- New numbers are not given twice. -/
theorem AreNew.nodup_append {taken ids : List Int} (new : AreNew taken ids)
    (distinct : taken.Nodup) : (taken ++ ids).Nodup := by
  refine distinct.append new.rising.nodup ?_
  intro id earlier later
  exact lt_irrefl id (new.above id later id earlier)

/-- A row is found where it is the only one that is looked for. -/
theorem find?_eq_some_of_unique {Row : Type} {rows : List Row} {wanted : Row → Bool} {row : Row}
    (member : row ∈ rows) (admitted : wanted row = true)
    (unique : ∀ other ∈ rows, wanted other = true → other = row) :
    rows.find? wanted = some row := by
  cases look : rows.find? wanted with
  | none => exact absurd admitted (List.find?_eq_none.mp look row member)
  | some other =>
      rw [unique other (List.mem_of_find?_eq_some look) (List.find?_some look)]

/-! ## Rows of an owner -/

/-- Has an owner an account with a number? -/
def HasAccount (ledger : Ledger) (owner : String) (id : Int) : Prop :=
  ∃ account ∈ ledger.accounts, account.id = id ∧ account.owner = owner

/-- Has an owner a card with a number? -/
def HasCard (ledger : Ledger) (owner : String) (id : Int) : Prop :=
  ∃ card ∈ ledger.cards, card.id = id ∧ card.owner = owner

/-- Has an owner a category with a number? -/
def HasCategory (ledger : Ledger) (owner : String) (id : Int) : Prop :=
  ∃ category ∈ ledger.categories, category.id = id ∧ category.owner = owner

instance (ledger : Ledger) (owner : String) (id : Int) : Decidable (ledger.HasAccount owner id) :=
  inferInstanceAs (Decidable (∃ account ∈ ledger.accounts, _))

instance (ledger : Ledger) (owner : String) (id : Int) : Decidable (ledger.HasCard owner id) :=
  inferInstanceAs (Decidable (∃ card ∈ ledger.cards, _))

instance (ledger : Ledger) (owner : String) (id : Int) : Decidable (ledger.HasCategory owner id) :=
  inferInstanceAs (Decidable (∃ category ∈ ledger.categories, _))

/-! ## Accounts -/

/-- What is found has the owner and the number that were asked for. -/
theorem account?_spec (found : ledger.account? owner id = some account) :
    account ∈ ledger.accounts ∧ account.id = id ∧ account.owner = owner := by
  have admitted := List.find?_some found
  exact ⟨List.mem_of_find?_eq_some found, by simpa using admitted⟩

/-- The accounts of a ledger without what they hold. -/
def emptied (ledger : Ledger) : List Account :=
  ledger.accounts.map fun account => { account with balance := .zero }

/-- Another balance changes nothing else about an account. -/
@[simp]
theorem emptied_setBalance (ledger : Ledger) (owner : String) (id : Int) (balance : Stored) :
    (ledger.setBalance owner id balance).emptied = ledger.emptied := by
  simp only [emptied, setBalance, List.map_map, List.map_inj_left]
  intro account _
  by_cases here : account.id = id ∧ account.owner = owner <;> simp [here]

/-- The numbers of accounts do not depend on what they hold. -/
theorem map_id_emptied (ledger : Ledger) :
    ledger.emptied.map Account.id = ledger.accounts.map Account.id := by
  simp [emptied, Function.comp_def]

/-- The accounts of a ledger, each told by its number and the moment that it was written at. -/
def origins (ledger : Ledger) : List (Int × Instant) :=
  ledger.accounts.map fun account => (account.id, account.writtenAt)

theorem map_fst_origins (ledger : Ledger) :
    ledger.origins.map Prod.fst = ledger.accounts.map Account.id := by
  rw [origins, List.map_map]
  rfl

/-- The origins of accounts do not depend on what they hold. -/
theorem origins_eq_of_emptied_eq {before after : Ledger} (kept : after.emptied = before.emptied) :
    after.origins = before.origins := by
  have of_emptied : ∀ ledger : Ledger,
      ledger.emptied.map (fun account => (account.id, account.writtenAt)) = ledger.origins := by
    intro ledger
    rw [emptied, List.map_map]
    rfl
  rw [← of_emptied, kept, of_emptied]

/-- Are accounts only added, at a certain moment and with new numbers? -/
def Opens (now : Instant) (before after : Ledger) : Prop :=
  ∃ ids, AreNew (before.origins.map Prod.fst) ids
    ∧ after.origins = before.origins ++ ids.map fun id => (id, now)

theorem opens_of_origins_eq {before after : Ledger} (now : Instant)
    (kept : after.origins = before.origins) : Opens now before after :=
  ⟨[], areNew_nil _, by rw [kept, List.map_nil, List.append_nil]⟩

theorem Opens.trans {now : Instant} {before middle after : Ledger}
    (first : Opens now before middle) (second : Opens now middle after) :
    Opens now before after := by
  rcases first with ⟨ids, new, middle_eq⟩
  rcases second with ⟨more, later, after_eq⟩
  have taken : middle.origins.map Prod.fst = before.origins.map Prod.fst ++ ids := by
    simp [middle_eq, Function.comp_def]
  refine ⟨ids ++ more, new.append (taken ▸ later), ?_⟩
  rw [after_eq, middle_eq, List.append_assoc, List.map_append]

/-- Where numbers are not given twice, an account is found by its owner and its number. -/
theorem account?_of_mem (distinct : (ledger.accounts.map Account.id).Nodup)
    (member : account ∈ ledger.accounts) :
    ledger.account? account.owner account.id = some account := by
  unfold account?
  generalize ledger.accounts = accounts at distinct member ⊢
  induction accounts with
  | nil => cases member
  | cons first rest ih =>
      rw [List.map_cons, List.nodup_cons] at distinct
      rcases List.mem_cons.mp member with rfl | later
      · simp
      · have apart : first.id ≠ account.id := by
          intro same
          exact distinct.1 (same ▸ List.mem_map_of_mem later)
        simp only [List.find?_cons, apart, false_and, decide_false]
        exact ih distinct.2 later

/-- Another balance for one account is found there and nowhere else. -/
theorem account?_setBalance (ledger : Ledger) (owner otherOwner : String) (id otherId : Int)
    (balance : Stored) :
    (ledger.setBalance owner id balance).account? otherOwner otherId
      = (ledger.account? otherOwner otherId).map fun account =>
          if otherOwner = owner ∧ otherId = id then { account with balance := balance }
          else account := by
  have same_key : (fun account : Account => decide (account.id = otherId ∧
        account.owner = otherOwner)) ∘ (fun account =>
          if account.id = id ∧ account.owner = owner then { account with balance := balance }
          else account)
      = fun account => decide (account.id = otherId ∧ account.owner = otherOwner) := by
    funext account
    by_cases here : account.id = id ∧ account.owner = owner <;> simp [here]
  unfold setBalance
  rw [account?, List.find?_map, same_key]
  change (ledger.account? otherOwner otherId).map _ = _
  cases found : ledger.account? otherOwner otherId with
  | none => rfl
  | some account =>
      rcases account?_spec found with ⟨-, rfl, rfl⟩
      simp only [Option.map_some, and_comm]

theorem account?_setBalance_self :
    (ledger.setBalance owner id balance).account? owner id
      = (ledger.account? owner id).map fun account => { account with balance := balance } := by
  simp only [account?_setBalance, and_self, if_true]

theorem account?_setBalance_of_ne (elsewhere : ¬(otherOwner = owner ∧ otherId = id)) :
    (ledger.setBalance owner id balance).account? otherOwner otherId
      = ledger.account? otherOwner otherId := by
  simp only [account?_setBalance, elsewhere, if_false, Option.map_id']

/-- The balances of two accounts can be set one before the other. -/
theorem setBalance_comm (apart : ¬(otherOwner = owner ∧ otherId = id)) (balance other : Stored)
    (ledger : Ledger) :
    (ledger.setBalance owner id balance).setBalance otherOwner otherId other
      = (ledger.setBalance otherOwner otherId other).setBalance owner id balance := by
  simp only [setBalance, List.map_map]
  congr 1
  refine List.map_congr_left fun account _ => ?_
  by_cases here : account.id = id ∧ account.owner = owner
  · have elsewhere : ¬(id = otherId ∧ owner = otherOwner) := by
      rintro ⟨rfl, rfl⟩
      exact apart ⟨rfl, rfl⟩
    simp [here, elsewhere]
  · by_cases there : account.id = otherId ∧ account.owner = otherOwner
    · have elsewhere : ¬(otherId = id ∧ otherOwner = owner) := fun same => apart same.symm
      simp [there, elsewhere]
    · simp [here, there]

/-- A new account is found unless another one has its owner and number already. -/
theorem account?_append (ledger : Ledger) (added : Account) (owner : String) (id : Int) :
    ({ ledger with accounts := ledger.accounts ++ [added] } : Ledger).account? owner id
      = (ledger.account? owner id).or
          (if added.id = id ∧ added.owner = owner then some added else none) := by
  unfold account?
  rw [List.find?_append]
  simp only [List.find?_cons, List.find?_nil]
  by_cases here : added.id = id ∧ added.owner = owner <;> simp [here]

end Cashbook.Ledger
