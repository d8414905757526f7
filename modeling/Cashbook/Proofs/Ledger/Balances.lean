import Cashbook.Proofs.Ledger.Events
import Cashbook.Proofs.Ledger.Sums

/-!
# Balances to the cent

A balance is kept in binary numbers and rounds with every addition, yet it is read as exactly what
the account was opened with and what its entries add up to.  Each update moves the balance by at
most `5 / 2 ^ 20` away from the exact sum, so a thousand updates stay below half a cent.
-/

namespace Cashbook

open Call Money

/-! ## Which runs are meant -/

/-- Is the event an account opened with whole cents, a batch of expenses and incomes or a transfer,
of moderate amounts? -/
def Event.IsOrdinary : Event → Prop
  | .wait _ _ fault => ∀ shown, fault = some shown → shown.point ≠ .race
  | .create _ _ _ opening => ∃ cents, opening.IsCents cents
  | .record entries => ∀ entry ∈ entries, Entry.IsPlain entry
  | .transfer movement _ _ => IsModerate movement.amount

theorem Event.IsOrdinary.isRaceless {event : Event} (ordinary : event.IsOrdinary) :
    event.IsRaceless := by
  cases event with
  | wait today now fault => exact ordinary
  | create | record | transfer => trivial

namespace Ledger

/-- What an account holds exactly: what it was opened with and what was posted to it. -/
def exactBalance (ledger : Ledger) (account : Account) : ℚ :=
  account.opening.toDecimal.value + Entry.posted account.owner account.id ledger.entries

/-- Does an account stay within twelve digits?  Sums within a batch may be longer, as long as
decimal numbers hold them. -/
structure InRange (owner : String) (id : Int) (ledger : Ledger) : Prop where
  opening : ∀ account, ledger.account? owner id = some account →
    account.opening.toDecimal.isFinite = true
  balance : ∀ account, ledger.account? owner id = some account →
    |ledger.exactBalance account| ≤ 10 ^ 10
  rows : ∀ rows, rows <+: ledger.entries → |Entry.posted owner id rows| < 10 ^ 25

instance (owner : String) (id : Int) : DecidablePred (InRange owner id) := fun ledger =>
  decidable_of_iff
    ((∀ account ∈ ledger.account? owner id, account.opening.toDecimal.isFinite = true)
      ∧ (∀ account ∈ ledger.account? owner id, |ledger.exactBalance account| ≤ 10 ^ 10)
      ∧ ∀ rows ∈ ledger.entries.inits, |Entry.posted owner id rows| < 10 ^ 25)
    (by
      simp only [List.mem_inits]
      exact ⟨fun holds => ⟨holds.1, holds.2.1, holds.2.2⟩,
        fun holds => ⟨holds.opening, holds.balance, holds.rows⟩⟩)

/-- Has the balance of an account been updated? -/
def isUpdated (owner : String) (id : Int) (before after : Ledger) : Bool :=
  match before.account? owner id, after.account? owner id with
  | some first, some second => decide (first.balance ≠ second.balance)
  | _, _ => false

/-- How often events update the balance of an account. -/
def updates (owner : String) (id : Int) (world : World) : List Event → Nat
  | [] => 0
  | event :: rest =>
      (isUpdated owner id world.ledger (event.after world).ledger).toNat
        + updates owner id (event.after world) rest

/-! ## The invariant -/

/-- How far a balance may be away from its exact value after so many updates. -/
def tolerance (count : Nat) : ℚ :=
  (1 + 5 * count) / 2 ^ 20

/-- Is one account as near to its exact balance as so many updates allow? -/
structure IsSound (owner : String) (id : Int) (count : Nat) (ledger : Ledger) : Prop where
  distinct : (ledger.accounts.map Account.id).Nodup
  counted : ∀ entry ∈ ledger.entries, entry.IsCounted
  absent : ledger.account? owner id = none → Entry.posted owner id ledger.entries = 0
  near : ∀ account, ledger.account? owner id = some account →
    account.balance.Within (tolerance count) (ledger.exactBalance account)

variable {owner : String} {id : Int} {count : Nat} {before after : Ledger} {account : Account}

theorem tolerance_succ (count : Nat) : tolerance (count + 1) = tolerance count + 5 / 2 ^ 20 := by
  unfold tolerance
  push_cast
  ring

theorem tolerance_le (few : count ≤ 1000) : tolerance count ≤ 5001 / 2 ^ 20 := by
  have few' : (count : ℚ) ≤ 1000 := by exact_mod_cast few
  unfold tolerance
  gcongr
  linarith

theorem IsSound.mono {more : Nat} (sound : IsSound owner id count before) (le : count ≤ more) :
    IsSound owner id more before := by
  refine ⟨sound.distinct, sound.counted, sound.absent, fun account found => ?_⟩
  apply (sound.near account found).mono
  unfold tolerance
  gcongr

/-- Exact balances are numbers of cents. -/
theorem IsSound.exists_cents (sound : IsSound owner id count before)
    (finite : account.opening.toDecimal.isFinite = true) :
    ∃ cents : Int, before.exactBalance account = cents / 100 := by
  rcases Stored.exists_isCents_toDecimal finite with ⟨opening, opening_counted⟩
  rcases Entry.exists_posted_eq sound.counted with ⟨posted, posted_eq⟩
  refine ⟨opening + posted, ?_⟩
  rw [exactBalance, (Decimal.isCents_iff.mp opening_counted).2, posted_eq]
  push_cast
  ring

/-- An update moves a balance a little further away from its exact value, and a balance that does
not change had nothing posted to it. -/
theorem IsSound.step {total : Int} (sound : IsSound owner id count before) (few : count ≤ 1000)
    (range : InRange owner id before) (distinct : (after.accounts.map Account.id).Nodup)
    (counted : ∀ entry ∈ after.entries, entry.IsCounted)
    (posted : Entry.posted owner id after.entries
      = Entry.posted owner id before.entries + total / 100)
    (absent : before.account? owner id = none → after.account? owner id = none ∧ total = 0)
    (kept : ∀ account, before.account? owner id = some account → ∃ balance : Stored,
      after.account? owner id = some { account with balance := balance }
      ∧ balance.Within (tolerance count + 5 / 2 ^ 20)
        (before.exactBalance account + total / 100)) :
    IsSound owner id (count + (isUpdated owner id before after).toNat) after := by
  cases found : before.account? owner id with
  | none =>
      rcases absent found with ⟨still, rfl⟩
      refine ⟨distinct, counted, fun _ => by rw [posted, sound.absent found]; simp, ?_⟩
      intro account found_after
      rw [still] at found_after
      cases found_after
  | some account =>
      rcases kept account found with ⟨balance, found_after, balance_near⟩
      rcases account?_spec found with ⟨-, rfl, rfl⟩
      have present : after.account? account.owner account.id ≠ none := by simp [found_after]
      refine ⟨distinct, counted, fun missing => absurd missing present, ?_⟩
      intro other found_other
      obtain rfl := Option.some.inj (found_after.symm.trans found_other)
      have exact_eq : after.exactBalance { account with balance := balance }
          = before.exactBalance account + total / 100 := by
        simp only [exactBalance, posted]
        ring
      rw [exact_eq]
      by_cases changed : account.balance = balance
      · have unchanged : isUpdated account.owner account.id before after = false := by
          simp [isUpdated, found, found_after, changed]
        have near := sound.near account found
        rcases sound.exists_cents (range.opening account found) with ⟨cents, cents_eq⟩
        have nothing : cents = cents + total := by
          rw [cents_eq] at near balance_near
          rw [changed] at near
          have both :
              balance.Within (tolerance count + 5 / 2 ^ 20) ((cents + total : Int) / 100) := by
            convert balance_near using 1
            push_cast
            ring
          apply near.cents_eq both
          have := tolerance_le few
          norm_num at this ⊢
          linarith
        obtain rfl : total = 0 := by omega
        rw [unchanged, ← changed]
        simpa using near
      · have updated : isUpdated account.owner account.id before after = true := by
          simp [isUpdated, found, found_after, changed]
        rw [updated, Bool.toNat_true, tolerance_succ]
        exact balance_near

/-! ## What one event does -/

theorem two_pow_div (low high : Nat) : (2 : ℚ) ^ low / 2 ^ (low + high) = 1 / 2 ^ high := by
  rw [pow_add]
  field_simp

/-- A new account is sound at once if it is in range. -/
theorem IsSound.created {name : String} {kind : AccountKind} {opening : Decimal} {amount : Stored}
    {now : Instant} {cents : Int} {opener : String} (sound : IsSound owner id count before)
    (counted : opening.IsCents cents) (stored : Stored.ofDecimal? opening = some amount)
    (distinct : (after.accounts.map Account.id).Nodup)
    (ledger_eq : after = { before with
      accounts := before.accounts ++ [⟨nextId (before.accounts.map Account.id), opener, name, kind,
        amount, amount, true, now⟩] })
    (range : InRange owner id after) : IsSound owner id count after := by
  subst ledger_eq
  have look := account?_append before ⟨nextId (before.accounts.map Account.id), opener, name, kind,
    amount, amount, true, now⟩ owner id
  refine ⟨distinct, sound.counted, ?_, ?_⟩
  · intro missing
    rw [look, Option.or_eq_none_iff] at missing
    exact sound.absent missing.1
  · intro account found
    cases earlier : before.account? owner id with
    | some old =>
        rw [look, earlier, Option.some_or] at found
        obtain rfl := Option.some.inj found
        exact sound.near old earlier
    | none =>
        have finite := range.opening account found
        have small := range.balance account found
        rw [look, earlier, Option.none_or] at found
        split_ifs at found with here
        obtain rfl := Option.some.inj found
        rcases here with ⟨rfl, rfl⟩
        have alone : ({ before with
            accounts := before.accounts ++ [⟨nextId (before.accounts.map Account.id), opener, name,
              kind, amount, amount, true, now⟩] } : Ledger).exactBalance
            ⟨nextId (before.accounts.map Account.id), opener, name, kind, amount, amount, true, now⟩
            = amount.toDecimal.value := by
          simp only [exactBalance]
          rw [sound.absent earlier, add_zero]
        rw [alone] at small ⊢
        have near := Stored.within_toDecimal_of_isCents counted stored (by norm_num : 34 ≤ 46)
          finite (lt_of_le_of_lt small (by norm_num))
        refine near.mono ?_
        rw [two_pow_div 34 20, tolerance]
        gcongr
        simp

/-- The sum of a batch moves a balance in range by at most three roundings. -/
theorem within_of_batch {amount stored balance : Stored} {value : ℚ} {total : Int} {sum : Decimal}
    (near : amount.Within (tolerance count) value) (few : count ≤ 1000)
    (start : |value| ≤ 10 ^ 10) (last : |value + total / 100| ≤ 10 ^ 10)
    (counted : sum.IsCents total) (storable : Stored.ofDecimal? sum = some stored)
    (added : amount.add? stored = some balance) :
    balance.Within (tolerance count + 5 / 2 ^ 20) (value + total / 100) := by
  have small : |(total : ℚ) / 100| < 2 ^ 35 := by
    rw [abs_le] at start last
    rw [abs_lt]
    constructor <;> linarith
  obtain ⟨same, same_eq, exact_stored⟩ :=
    Stored.exists_ofDecimal?_eq counted (by norm_num) small
  obtain rfl : stored = same := Option.some.inj (storable.symm.trans same_eq)
  have bounded := tolerance_le few
  refine (Stored.Within.of_add?_eq added near exact_stored (by norm_num : 34 < 1024) ?_).mono ?_
  · norm_num at bounded ⊢
    linarith
  · rw [two_pow_div 34 20, add_assoc]
    gcongr
    norm_num

/-- A batch keeps an account sound. -/
theorem IsSound.recorded {entries : List NewEntry} {ids : List Int}
    (sound : IsSound owner id count before) (few : count ≤ 1000)
    (written : Entry.Recorded entries ids before after)
    (plain : ∀ entry ∈ entries, Entry.IsPlain entry) (range : InRange owner id before)
    (range_after : InRange owner id after) :
    IsSound owner id (count + (isUpdated owner id before after).toNat) after := by
  have distinct : (after.accounts.map Account.id).Nodup := by
    rw [← map_id_emptied, written.kept, map_id_emptied]
    exact sound.distinct
  have counted : ∀ entry ∈ after.entries, entry.IsCounted := by
    rcases written.rows with ⟨rows, of_entries, -, appended⟩
    rw [appended]
    intro entry member
    rcases List.mem_append.mp member with earlier | new
    · exact sound.counted entry earlier
    · exact Entry.isCounted_of_forall₂ of_entries plain entry new
  rcases written.exists_sums plain range_after.rows with ⟨total, posted, sums, applied, sums_eq⟩
  apply sound.step few range distinct counted posted
  · intro missing
    rw [missing] at applied
    rcases sums_eq with ⟨rfl, rfl⟩ | ⟨sum, rfl, sum_counted⟩
    · exact ⟨Entry.applied_nil_iff.mp applied, rfl⟩
    · rcases Entry.applied_singleton_iff.mp applied with ⟨nothing, same⟩ | ⟨-, _, _, _, some_eq, -⟩
      · exact ⟨same, Entry.cents_eq_zero sum_counted nothing⟩
      · cases some_eq
  · intro account found
    have near := sound.near account found
    have unmoved : account.balance.Within (tolerance count + 5 / 2 ^ 20)
        (before.exactBalance account + (0 : Int) / 100) := by
      simpa using near.mono (le_add_of_nonneg_right (by norm_num))
    rw [found] at applied
    rcases sums_eq with ⟨rfl, rfl⟩ | ⟨sum, rfl, sum_counted⟩
    · exact ⟨account.balance, Entry.applied_nil_iff.mp applied, unmoved⟩
    · rcases Entry.applied_singleton_iff.mp applied with
        ⟨nothing, same⟩ | ⟨-, _, stored, balance, some_eq, storable, added, changed⟩
      · obtain rfl := Entry.cents_eq_zero sum_counted nothing
        exact ⟨account.balance, same, unmoved⟩
      · obtain rfl := Option.some.inj some_eq
        rcases account?_spec found with ⟨-, rfl, rfl⟩
        refine ⟨balance, changed, ?_⟩
        have start := range.balance account found
        have goal := range_after.balance _ changed
        rw [exactBalance, posted, ← add_assoc] at goal
        exact within_of_batch near few start goal sum_counted storable added

/-- One leg of a transfer rounds twice. -/
theorem within_of_leg {amount moved balance : Stored} {value error change : ℚ}
    (added : amount.add? moved = some balance) (near : amount.Within error value)
    (exact_moved : moved.Within (1 / 2 ^ 20) change) (slack : error ≤ 1)
    (last : |value + change| ≤ 10 ^ 10) : balance.Within (error + 2 / 2 ^ 20) (value + change) := by
  have rounded := Stored.Within.of_add?_eq added near exact_moved (by norm_num : 34 < 1024) (by
    norm_num
    linarith)
  refine rounded.mono (le_of_eq ?_)
  rw [two_pow_div 34 20]
  ring

/-- A transfer from an account to itself rounds three times and leaves its exact balance alone. -/
theorem within_of_round_trip {amount moved left balance : Stored} {value error change : ℚ}
    (debited : amount.sub? moved = some left) (credited : left.add? moved = some balance)
    (near : amount.Within error value) (exact_moved : moved.Within (1 / 2 ^ 20) change)
    (slack : error ≤ 1 / 2) (start : |value| ≤ 10 ^ 10) (small : |change| ≤ 10 ^ 10) :
    balance.Within (error + 5 / 2 ^ 20) value := by
  have apart : |value + -change| ≤ 2 * 10 ^ 10 := by
    rw [abs_le] at start small ⊢
    constructor <;> linarith
  have first := Stored.Within.of_add?_eq debited near exact_moved.neg (by norm_num : 35 < 1024) (by
    norm_num at apart ⊢
    linarith)
  have second := Stored.Within.of_add?_eq credited first exact_moved (by norm_num : 34 < 1024) (by
    rw [neg_add_cancel_right]
    norm_num at start ⊢
    linarith)
  rw [neg_add_cancel_right] at second
  refine second.mono (le_of_eq ?_)
  norm_num
  ring

/-- Whatever a transfer makes of a balance in range rounds three times at most. -/
theorem within_of_transfer {movement : Movement} {amount balance later : Stored}
    {value error : ℚ} {cents : Int} (leg : Transfer.Leg movement amount owner id balance later)
    (near : balance.Within error value) (near_amount : amount.Within (1 / 2 ^ 20) (cents / 100))
    (slack : error ≤ 1 / 2) (start : |value| ≤ 10 ^ 10) (small : |(cents : ℚ) / 100| ≤ 10 ^ 10)
    (last : |value + ((if owner = movement.owner ∧ id = movement.source then -cents else 0)
      + (if owner = movement.owner ∧ id = movement.target then cents else 0) : Int) / 100|
        ≤ 10 ^ 10) :
    later.Within (error + 5 / 2 ^ 20)
      (value + ((if owner = movement.owner ∧ id = movement.source then -cents else 0)
        + (if owner = movement.owner ∧ id = movement.target then cents else 0) : Int) / 100) := by
  have little : error + 2 / 2 ^ 20 ≤ error + 5 / 2 ^ 20 := by
    gcongr
    norm_num
  cases leg with
  | aside not_source not_target =>
      rw [if_neg not_source, if_neg not_target]
      simpa using near.mono (le_add_of_nonneg_right (by norm_num))
  | outgoing source not_target debited =>
      simp only [if_pos source, if_neg not_target, add_zero, Int.cast_neg, neg_div] at last ⊢
      exact (within_of_leg debited near near_amount.neg (by linarith) last).mono little
  | incoming not_source target credited =>
      simp only [if_neg not_source, if_pos target, zero_add] at last ⊢
      exact (within_of_leg credited near near_amount (by linarith) last).mono little
  | both source target debited credited =>
      have same := within_of_round_trip debited credited near near_amount slack start small
      simpa [if_pos source, if_pos target] using same

/-- A transfer keeps an account sound. -/
theorem IsSound.moved {movement : Movement} {description : String} {date : Date} {record : Int}
    (sound : IsSound owner id count before) (few : count ≤ 1000)
    (moved : Transfer.Effect movement description date before record after)
    (moderate : IsModerate movement.amount) (range : InRange owner id before)
    (range_after : InRange owner id after) :
    IsSound owner id (count + (isUpdated owner id before after).toNat) after := by
  rcases moderate with ⟨cents, counted, positive, limited⟩
  have small : |cents| < 10 ^ 12 := abs_lt.mpr ⟨by linarith, limited⟩
  have distinct := (Event.Outcome.moved moved).nodup sound.distinct
  apply sound.step few range distinct (moved.isCounted counted small sound.counted)
    (moved.posted counted small)
  · intro missing
    rcases moved.account?_eq_none missing with ⟨still, not_source, not_target⟩
    exact ⟨still, by rw [if_neg not_source, if_neg not_target, add_zero]⟩
  · intro account found
    rcases moved.exists_leg found with ⟨amount, balance, stored, found_after, leg⟩
    refine ⟨balance, found_after, ?_⟩
    have near_amount := (Stored.within_of_isCents counted small stored).1
    have slack := tolerance_le few
    have change_small : |(cents : ℚ) / 100| ≤ 10 ^ 10 := by
      have small' : |(cents : ℚ)| < 10 ^ 12 := by exact_mod_cast small
      rw [abs_div, abs_of_pos (by norm_num : (0 : ℚ) < 100), div_le_iff₀ (by norm_num)]
      linarith
    have goal := range_after.balance _ found_after
    rcases account?_spec found with ⟨-, id_eq, owner_eq⟩
    simp only [exactBalance, owner_eq, id_eq, moved.posted counted small, ← add_assoc] at goal
    apply within_of_transfer leg (sound.near account found) near_amount
      (by norm_num at slack ⊢; linarith) (range.balance account found) change_small
    simpa only [exactBalance, owner_eq, id_eq] using goal

/-- Every ordinary event keeps an account sound. -/
theorem IsSound.of_event {event : Event} {world : World}
    (sound : IsSound owner id count world.ledger) (few : count ≤ 1000)
    (ordinary : event.IsOrdinary) (raceless : world.IsRaceless)
    (range : InRange owner id world.ledger)
    (range_after : InRange owner id (event.after world).ledger) :
    IsSound owner id
      (count + (isUpdated owner id world.ledger (event.after world).ledger).toNat)
      (event.after world).ledger := by
  have outcome : Event.Outcome event world.ledger (event.after world).ledger :=
    Event.outcome_after raceless
  have distinct := outcome.nodup sound.distinct
  generalize (event.after world).ledger = last at outcome range_after distinct ⊢
  generalize world.ledger = first at outcome range sound ⊢
  cases outcome with
  | same => exact sound.mono (Nat.le_add_right ..)
  | created stored =>
      rcases ordinary with ⟨cents, counted⟩
      exact (sound.created counted stored distinct rfl range_after).mono (Nat.le_add_right ..)
  | recorded written => exact sound.recorded few written ordinary range range_after
  | moved moved => exact sound.moved few moved ordinary range range_after

/-! ## Runs -/

/-- Ordinary events keep an account sound, whatever their number, while it is updated at most a
thousand times. -/
theorem IsSound.run {world : World} {events : List Event}
    (sound : IsSound owner id count world.ledger) (raceless : world.IsRaceless)
    (ordinary : ∀ event ∈ events, event.IsOrdinary)
    (range : World.Throughout (InRange owner id) world events)
    (few : count + updates owner id world events ≤ 1000) :
    IsSound owner id (count + updates owner id world events) (world.run events).ledger := by
  induction events generalizing world count with
  | nil => exact sound
  | cons event rest ih =>
      rw [List.forall_mem_cons] at ordinary
      rcases World.throughout_cons_iff.mp range with ⟨start, later⟩
      rw [updates, ← Nat.add_assoc] at few ⊢
      have next := sound.of_event (by omega) ordinary.1 raceless start later.start
      exact ih next (event.isRaceless_after raceless ordinary.1.isRaceless) ordinary.2 later few

/-- After any run of ordinary events, wherever storage fails in between, an account that stayed in
range and was updated at most a thousand times is found with exactly the balance that it was opened
with and that its entries add up to. -/
theorem find_eq_exactBalance {world : World} {events : List Event} {account : Account}
    (empty : world.ledger = .empty) (raceless : world.IsRaceless)
    (ordinary : ∀ event ∈ events, event.IsOrdinary)
    (member : account ∈ (world.run events).ledger.accounts)
    (word : Integer.isWord account.id = true)
    (range : World.Throughout (InRange account.owner account.id) world events)
    (few : updates account.owner account.id world events ≤ 1000) :
    Account.find account.owner account.id (world.run events)
        = .ok (some account) (world.run events)
      ∧ (∀ entry ∈ (world.run events).ledger.entries, ∃ signed, entry.signedAmount = .ok signed
        ∧ signed.isFinite = true)
      ∧ account.balance.toDecimal.isFinite = true
      ∧ account.balance.toDecimal.value = (world.run events).ledger.exactBalance account := by
  have start : IsSound account.owner account.id 0 world.ledger := by
    rw [empty]
    exact ⟨.nil, by simp [Ledger.empty], fun _ => rfl, fun _ found => by cases found⟩
  have sound := start.run raceless ordinary range (by omega)
  have found := account?_of_mem sound.distinct member
  refine ⟨?_, ?_, ?_⟩
  · rw [Account.find, bind_of_ok (checkWord_eq_ok_iff.mpr ⟨word, rfl⟩),
      bind_of_ok (ledger_apply _), found]
    rfl
  · intro entry entry_member
    rcases sound.counted entry entry_member with ⟨signed, cents, signed_eq, counted⟩
    exact ⟨signed, signed_eq, counted.1⟩
  · have near := sound.near account found
    rcases sound.exists_cents (range.last.opening account found) with ⟨cents, cents_eq⟩
    rw [cents_eq, Nat.zero_add] at near
    rw [cents_eq]
    have bounded := tolerance_le few
    apply Decimal.isCents_iff.mp
    apply near.isCents_toDecimal
    norm_num at bounded ⊢
    linarith

/-- A wallet is opened with a tenth, and at the second try a fifth comes in. -/
def tenths : List Event :=
  let entry : NewEntry :=
    { owner := "ana", kind := .income, amount := .ofCents false 20, description := "Troco",
      date := World.newYear.today, account := some 1 }
  [.create "ana" "Carteira" .wallet (.ofCents false 10),
   .wait World.newYear.today World.newYear.now (some { point := .commit }),
   .record [entry], .record [entry]]

/-- A tenth and a fifth are read as three tenths, though their binary sum is larger. -/
theorem find_eq_exactBalance_tenths :
    ∃ account ∈ (World.newYear.run tenths).ledger.accounts,
      account.balance.toDecimal = .ofCents false 30
      ∧ Account.find account.owner account.id (World.newYear.run tenths)
        = .ok (some account) (World.newYear.run tenths)
      ∧ account.balance.toDecimal.value
        = (World.newYear.run tenths).ledger.exactBalance account := by
  have ordinary : ∀ event ∈ tenths, event.IsOrdinary := by
    simp only [tenths, List.forall_mem_cons, Event.IsOrdinary, Entry.IsPlain]
    have moderate : IsModerate (.ofCents false 20) := ⟨20, by decide +kernel⟩
    refine ⟨⟨10, by decide +kernel⟩, by simp, ⟨⟨by decide, moderate⟩, by simp⟩,
      ⟨⟨by decide, moderate⟩, by simp⟩, by simp⟩
  obtain ⟨account, member, owner_eq, id_eq, read⟩ : ∃ account ∈
      (World.newYear.run tenths).ledger.accounts, account.owner = "ana" ∧ account.id = 1
        ∧ account.balance.toDecimal = .ofCents false 30 := by decide +kernel
  obtain ⟨found, -, -, equal⟩ := find_eq_exactBalance rfl (by simp [World.IsRaceless,
    World.newYear]) ordinary member (by rw [id_eq]; decide)
    (by rw [owner_eq, id_eq]; decide +kernel) (by rw [owner_eq, id_eq]; decide +kernel)
  exact ⟨account, member, read, found, equal⟩

end Ledger

end Cashbook
