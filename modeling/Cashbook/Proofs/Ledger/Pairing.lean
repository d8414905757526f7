import Cashbook.Proofs.Evolution
import Cashbook.Proofs.Ledger.Sums
import Cashbook.Proofs.Posting.Sufficiency

/-!
# Transfers and their entries

Each transfer of a ledger stands for two entries, one that takes money out of an account and one
that brings it to another, and no entry stands for two transfers.  An entry that names a destination
always belongs to a transfer.  Up to an amount that is read exactly, the two entries cancel out.
-/

namespace Cashbook

open Call Money

/-! ## Amounts that are read exactly -/

namespace Money.Stored

variable {amount : Stored}

/-- Is this the stored form of a number below `10 ^ 26`? -/
def IsModerate (amount : Stored) : Prop :=
  ∃ number : Decimal, number.isFinite = true ∧ |number.value| < 10 ^ 26
    ∧ ofDecimal? number = some amount

/-- A moderate amount is read without loss: either it is whole, or it has so few digits that cents
are exact. -/
theorem IsModerate.exists_isUnits (moderate : amount.IsModerate) :
    ∃ place units, (place = 0 ∨ place = -2) ∧ units.natAbs < 10 ^ Decimal.working.digits
      ∧ amount.toDecimal.IsUnits place units := by
  rcases moderate with ⟨number, number_finite, small, stored⟩
  cases number with
  | infinite => cases number_finite
  | notNumber => cases number_finite
  | finite negative coefficient exponent =>
    have below : (coefficient : ℚ) * 10 ^ exponent < 2 ^ 87 := by
      rw [Decimal.abs_value_finite] at small
      exact small.trans (by norm_num)
    rcases Binary64.exists_ofDecimalSize?_eq (by norm_num) below with ⟨steps, steps_eq, size, few⟩
    simp only [ofDecimal?, Binary64.ofDecimal, steps_eq, ofBinary?, Option.some.injEq] at stored
    subst stored
    rw [toDecimal, Decimal.natAbs_signed]
    generalize decide (Decimal.signed negative steps < 0) = sign
    rcases Binary64.exists_one_eq with ⟨low, -, -, one_eq, -⟩
    -- A large size has no bits below one; a small one has so few digits that its cents are exact.
    rcases size.dvd_or_lt (low + 54) with ⟨whole, rfl⟩ | fine
    · refine ⟨0, Decimal.signed sign whole, .inl rfl, ?_, ?_⟩
      · rw [Decimal.natAbs_signed]
        rw [← one_eq, Nat.mul_comm] at few
        exact (Nat.le_of_mul_le_mul_right few Binary64.one_pos).trans_lt (by decide)
      · have cents : Binary64.hundredths (2 ^ (low + 54) * whole) = whole * 100 := by
          rw [← one_eq, Binary64.hundredths, Nat.mul_comm Binary64.one, Nat.mul_right_comm]
          exact divHalfEven_mul_self _ Binary64.one_pos
        rw [cents, Decimal.ofCents, Decimal.isUnits_finite_iff, Decimal.signed_mul,
          Decimal.signed_mul]
        norm_num
        split_ifs <;> ring
    · refine ⟨-2, Decimal.signed sign (Binary64.hundredths steps), .inr rfl, ?_, ?_⟩
      · have cents : Binary64.hundredths steps ≤ 2 ^ 52 * 100 := by
          apply divHalfEven_le Binary64.one_pos
          rw [Nat.pow_add, ← one_eq] at fine
          generalize Binary64.one = unit at fine ⊢
          omega
        rw [Decimal.natAbs_signed]
        exact cents.trans_lt (by decide)
      · rw [Decimal.ofCents, Decimal.isUnits_finite_iff]

/-- What is taken out and what is brought in cancel out. -/
theorem IsModerate.exists_neg_add_eq (moderate : amount.IsModerate) :
    ∃ turned sum, amount.toDecimal.neg = .ok turned ∧ turned.add amount.toDecimal = .ok sum
      ∧ sum.IsCents 0 := by
  rcases moderate.exists_isUnits with ⟨place, units, places, few, counted⟩
  have low : Decimal.working.lastExponent ≤ place := by
    rcases places with rfl | rfl <;> decide
  have high : place + Decimal.working.digits ≤ Decimal.working.maxExponent + 1 := by
    rcases places with rfl | rfl <;> decide
  rcases counted.exists_neg_eq few low high with ⟨turned, turned_eq, turned_counted⟩
  have turned_few : (-units).natAbs < 10 ^ Decimal.working.digits := by
    rwa [Int.natAbs_neg]
  have together : (-units + units).natAbs < 10 ^ Decimal.working.digits := by
    rw [neg_add_cancel]
    decide
  rcases turned_counted.exists_add_eq counted turned_few few together low high with
    ⟨sum, sum_eq, sum_counted⟩
  rw [neg_add_cancel] at sum_counted
  refine ⟨turned, sum, turned_eq, sum_eq, sum_counted.1, ?_⟩
  simpa using sum_counted.2

end Money.Stored

/-! ## Pairs of entries -/

/-- Do the signed amounts of two entries add up to zero? -/
def Entry.CancelOut (first second : Entry) : Prop :=
  ∃ signed otherSigned sum, first.signedAmount = .ok signed
    ∧ second.signedAmount = .ok otherSigned ∧ signed.add otherSigned = .ok sum ∧ sum.IsCents 0

namespace Transfer

/-- Is an entry the side of a transfer with a number, an account and a destination? -/
structure IsSide (transfer : Transfer) (id account : Int) (destination : Option Int)
    (entry : Entry) : Prop where
  id : entry.id = id
  kind : entry.kind = .transfer
  settled : entry.settlement = .confirmed
  owner : entry.owner = transfer.owner
  date : entry.date = transfer.date
  amount : entry.amount = transfer.amount
  account : entry.account = some account
  destination : entry.destination = destination

/-- Does a transfer stand for an entry that takes money out of the source and another one that
brings it to the target? -/
structure Joins (transfer : Transfer) (outgoing incoming : Entry) : Prop where
  taken : transfer.IsSide transfer.outgoing transfer.source (some transfer.target) outgoing
  brought : transfer.IsSide transfer.incoming transfer.target none incoming
  apart : outgoing.id ≠ incoming.id
  description : outgoing.description = incoming.description

/-- The numbers of the entries that a transfer stands for. -/
def legs (transfer : Transfer) : List Int :=
  [transfer.outgoing, transfer.incoming]

variable {transfer : Transfer} {outgoing incoming : Entry}

/-- The entries of a transfer cancel out. -/
theorem Joins.cancelOut (joins : transfer.Joins outgoing incoming)
    (moderate : transfer.amount.IsModerate) : outgoing.CancelOut incoming := by
  rcases moderate.exists_neg_add_eq with ⟨turned, sum, turned_eq, sum_eq, nothing⟩
  refine ⟨turned, transfer.amount.toDecimal, sum, ?_, ?_, sum_eq, nothing⟩
  · simp only [Entry.signedAmount, joins.taken.kind, joins.taken.destination,
      joins.taken.amount, turned_eq]
  · simp only [Entry.signedAmount, joins.brought.kind, joins.brought.destination,
      joins.brought.amount]

end Transfer

namespace Ledger

variable {before after : Ledger}

/-- Do the transfers of a ledger and their entries belong together? -/
structure IsPaired (ledger : Ledger) : Prop where
  distinct : (ledger.entries.map Entry.id).Nodup
  /-- No entry belongs to two transfers, or to one twice. -/
  exclusive : (ledger.transfers.flatMap Transfer.legs).Nodup
  joined : ∀ transfer ∈ ledger.transfers, ∃ outgoing ∈ ledger.entries,
    ∃ incoming ∈ ledger.entries, transfer.Joins outgoing incoming
  /-- An entry that names a destination belongs to a transfer. -/
  owned : ∀ entry ∈ ledger.entries, entry.destination.isSome →
    ∃ transfer ∈ ledger.transfers, transfer.outgoing = entry.id

theorem isPaired_empty : empty.IsPaired :=
  ⟨.nil, .nil, by simp [empty], by simp [empty]⟩

/-- The entries of transfers are entries of the ledger. -/
theorem legs_subset {transfers : List Transfer} {entries : List Entry}
    (joined : ∀ transfer ∈ transfers, ∃ outgoing ∈ entries, ∃ incoming ∈ entries,
      transfer.Joins outgoing incoming) :
    transfers.flatMap Transfer.legs ⊆ entries.map Entry.id := by
  intro id member
  rcases List.mem_flatMap.mp member with ⟨transfer, transfer_member, leg⟩
  rcases joined transfer transfer_member with ⟨outgoing, outgoing_member, incoming,
    incoming_member, joins⟩
  rcases List.mem_cons.mp leg with rfl | later
  · exact joins.taken.id ▸ List.mem_map_of_mem outgoing_member
  · obtain rfl := List.mem_singleton.mp later
    exact joins.brought.id ▸ List.mem_map_of_mem incoming_member

/-- Transfers that are appended together with their entries keep all pairs apart, because the
entries have new numbers. -/
theorem IsPaired.append {rows : List Entry} {records : List Transfer} (paired : before.IsPaired)
    (entries_eq : after.entries = before.entries ++ rows)
    (transfers_eq : after.transfers = before.transfers ++ records)
    (new : AreNew (before.entries.map Entry.id) (rows.map Entry.id))
    (exclusive : (records.flatMap Transfer.legs).Nodup)
    (joined : ∀ transfer ∈ records, ∃ outgoing ∈ rows, ∃ incoming ∈ rows,
      transfer.Joins outgoing incoming)
    (owned : ∀ entry ∈ rows, entry.destination.isSome →
      ∃ transfer ∈ records, transfer.outgoing = entry.id) : after.IsPaired where
  distinct := by
    rw [entries_eq, List.map_append]
    exact new.nodup_append paired.distinct
  exclusive := by
    rw [transfers_eq, List.flatMap_append]
    refine paired.exclusive.append exclusive ?_
    intro id earlier later
    exact lt_irrefl id
      (new.above id (legs_subset joined later) id (legs_subset paired.joined earlier))
  joined := by
    intro transfer member
    rw [entries_eq]
    rcases List.mem_append.mp (transfers_eq ▸ member) with earlier | later
    · rcases paired.joined transfer earlier with ⟨outgoing, outgoing_member, incoming,
        incoming_member, joins⟩
      exact ⟨outgoing, List.mem_append_left _ outgoing_member, incoming,
        List.mem_append_left _ incoming_member, joins⟩
    · rcases joined transfer later with ⟨outgoing, outgoing_member, incoming, incoming_member,
        joins⟩
      exact ⟨outgoing, List.mem_append_right _ outgoing_member, incoming,
        List.mem_append_right _ incoming_member, joins⟩
  owned := by
    intro entry member bound
    rw [transfers_eq]
    rcases List.mem_append.mp (entries_eq ▸ member) with earlier | later
    · rcases paired.owned entry earlier bound with ⟨transfer, transfer_member, same⟩
      exact ⟨transfer, List.mem_append_left _ transfer_member, same⟩
    · rcases owned entry later bound with ⟨transfer, transfer_member, same⟩
      exact ⟨transfer, List.mem_append_right _ transfer_member, same⟩

/-- Only entries and transfers matter. -/
theorem IsPaired.of_eq (paired : before.IsPaired) (entries_eq : after.entries = before.entries)
    (transfers_eq : after.transfers = before.transfers) : after.IsPaired :=
  paired.append (by rw [entries_eq, List.append_nil]) (by rw [transfers_eq, List.append_nil])
    (areNew_nil _) (by simp) (by simp) (by simp)

/-- A batch appends entries without destination. -/
theorem IsPaired.recorded {entries : List NewEntry} {ids : List Int} (paired : before.IsPaired)
    (written : Entry.Recorded entries ids before after)
    (new : AreNew (before.entries.map Entry.id) ids) : after.IsPaired := by
  rcases written.rows with ⟨rows, of_entries, rfl, entries_eq⟩
  have transfers_eq : after.transfers = before.transfers := by
    rw [written.frame]
  refine paired.append entries_eq (by rw [transfers_eq, List.append_nil]) new (by simp) (by simp) ?_
  intro row member bound
  exfalso
  have plain : ∀ row ∈ rows, row.destination = none := by
    refine Entry.forall_mem_rows of_entries fun entry _ row of_entry => ?_
    rcases of_entry with ⟨number, stored, -, rfl⟩
    rfl
  simp [plain row member] at bound

/-- A transfer appends its two entries and its record. -/
theorem IsPaired.moved {movement : Movement} {description : String} {date : Date} {id : Int}
    (paired : before.IsPaired)
    (effect : Transfer.Effect movement description date before id after) : after.IsPaired := by
  cases effect with
  | @intro source target amount left gained source_found stored covered debited target_found
      credited =>
    refine paired.append rfl rfl ?_ ?_ ?_ ?_
    · apply AreNew.cons fun other taken => lt_nextId taken
      apply AreNew.cons ?_ (areNew_nil _)
      intro other taken
      rcases List.mem_append.mp taken with earlier | first
      · exact (lt_nextId earlier).trans (lt_add_one _)
      · obtain rfl := List.mem_singleton.mp first
        exact lt_add_one _
    · simp [Transfer.legs]
    · rw [List.forall_mem_singleton]
      refine ⟨_, List.mem_cons_self, _, List.mem_cons_of_mem _ List.mem_cons_self, ?_⟩
      exact ⟨⟨rfl, rfl, rfl, rfl, rfl, rfl, rfl, rfl⟩, ⟨rfl, rfl, rfl, rfl, rfl, rfl, rfl, rfl⟩,
        (lt_add_one _).ne, rfl⟩
    · rw [List.forall_mem_cons, List.forall_mem_singleton]
      refine ⟨fun _ => ⟨_, List.mem_cons_self, rfl⟩, ?_⟩
      intro bound
      cases bound

theorem Change.isPaired (change : Change before after) (paired : before.IsPaired) :
    after.IsPaired := by
  cases change with
  | bound owner chat => exact paired.of_eq rfl rfl
  | released id => exact paired.of_eq rfl rfl
  | opened stored owner name kind now => exact paired.of_eq rfl rfl
  | closed id => exact paired.of_eq rfl rfl
  | issued stored owner name brand closingDay dueDay => exact paired.of_eq rfl rfl
  | named owner name kind => exact paired.of_eq rfl rfl
  | recorded written new => exact paired.recorded written new
  | moved effect => exact paired.moved effect

theorem isPaired_later (today : Date) (now : Instant) (steps : List Step) :
    ((World.start today now).later steps).ledger.IsPaired :=
  World.holds_later isPaired_empty (fun _ _ change => change.isPaired) today now steps

/-- No entry is taken out by two transfers. -/
theorem IsPaired.eq_of_outgoing {first second : Transfer} (paired : before.IsPaired)
    (first_member : first ∈ before.transfers) (second_member : second ∈ before.transfers)
    (same : first.outgoing = second.outgoing) : first = second := by
  by_contra apart
  have symmetric : Std.Symm (Function.onFun List.Disjoint Transfer.legs) :=
    ⟨fun _ _ disjoint => disjoint.symm⟩
  have disjoint :=
    (List.nodup_flatMap.mp paired.exclusive).2.forall first_member second_member apart
  have leg : first.outgoing ∈ second.legs := by
    rw [same]
    exact List.mem_cons_self
  exact disjoint List.mem_cons_self leg

/-- Whatever happens to an empty ledger, and wherever storage fails, each transfer stands for two
entries of its own, which cancel out where the amount is below `10 ^ 26`; and each entry that names
a destination belongs to one transfer. -/
theorem transfers_correspond_to_entries (today : Date) (now : Instant) (steps : List Step) :
    let ledger := ((World.start today now).later steps).ledger
    (ledger.entries.map Entry.id).Nodup
    ∧ (ledger.transfers.flatMap Transfer.legs).Nodup
    ∧ (∀ transfer ∈ ledger.transfers, ∃ outgoing ∈ ledger.entries, ∃ incoming ∈ ledger.entries,
        transfer.Joins outgoing incoming
        ∧ (transfer.amount.IsModerate → outgoing.CancelOut incoming))
    ∧ ∀ entry ∈ ledger.entries, entry.destination.isSome →
        ∃! transfer, transfer ∈ ledger.transfers ∧ transfer.outgoing = entry.id := by
  intro ledger
  have paired : ledger.IsPaired := isPaired_later today now steps
  refine ⟨paired.distinct, paired.exclusive, ?_, ?_⟩
  · intro transfer member
    rcases paired.joined transfer member with ⟨outgoing, outgoing_member, incoming,
      incoming_member, joins⟩
    exact ⟨outgoing, outgoing_member, incoming, incoming_member, joins, joins.cancelOut⟩
  · intro entry member bound
    rcases paired.owned entry member bound with ⟨transfer, transfer_member, same⟩
    refine ⟨transfer, ⟨transfer_member, same⟩, ?_⟩
    rintro other ⟨other_member, other_same⟩
    exact paired.eq_of_outgoing other_member transfer_member (other_same.trans same.symm)

/-- A transfer that cannot be committed gives the numbers of its entries back, and the next one
takes them. -/
example :
    let wallet := Operation.createAccount "ana" "Carteira" .wallet (.ofCents false 5000)
    let savings := Operation.createAccount "ana" "Poupança" .savings (.ofCents false 0)
    let saving := Operation.transfer ⟨"ana", 1, 2, .ofCents false 1000⟩ "Reserva"
      World.newYear.today
    let start := World.start World.newYear.today World.newYear.now
    let ledger := (start.later [.ask wallet, .ask savings,
      .wait World.newYear.today World.newYear.now (some { point := .commit }), .ask saving,
      .ask saving]).ledger
    ledger.transfers.map Transfer.legs = [[1, 2]]
      ∧ ledger.entries.map Entry.destination = [some 2, none] := by
  decide +kernel

end Ledger

end Cashbook
