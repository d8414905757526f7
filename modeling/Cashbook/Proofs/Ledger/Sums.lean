import Cashbook.Proofs.Ledger.Grouping
import Cashbook.Proofs.Ledger.Moving
import Cashbook.Proofs.Money.Stored

/-!
# What entries add up to

An entry that is posted to an account counts with its sign and its exact value once the money has
moved.  The sum that a batch adds to a balance is the exact sum of its rows, because decimal
numbers of 28 digits hold every sum of cents that a ledger comes to.
-/

namespace Cashbook

open Call Money

variable {owner : String} {id : Int} {amount : Decimal} {cents : Int}

namespace Money

/-- Is the amount a positive number of cents below `10 ^ 10`? -/
def IsModerate (amount : Decimal) : Prop :=
  ∃ cents : Int, amount.IsCents cents ∧ 0 < cents ∧ cents < 10 ^ 12

/-- A moderate amount is stored almost exactly and is read again as it was. -/
theorem Stored.within_of_isCents {stored : Stored} (counted : amount.IsCents cents)
    (small : |cents| < 10 ^ 12) (stored_eq : Stored.ofDecimal? amount = some stored) :
    stored.Within (1 / 2 ^ 20) (cents / 100) ∧ stored.toDecimal.IsCents cents := by
  have range : |(cents : ℚ) / 100| < 2 ^ 34 := by
    have bounded : |(cents : ℚ)| < 10 ^ 12 := by exact_mod_cast small
    rw [abs_div, abs_of_pos (by norm_num : (0 : ℚ) < 100), div_lt_iff₀ (by norm_num)]
    linarith
  rcases Stored.exists_ofDecimal?_eq counted (by norm_num) range with ⟨same, same_eq, near⟩
  obtain rfl : stored = same := Option.some.inj (stored_eq.symm.trans same_eq)
  norm_num only at near ⊢
  exact ⟨near, near.isCents_toDecimal (by norm_num)⟩

end Money

namespace Entry

/-- The exact value of an entry with the sign of its effect. -/
def signedValue (entry : Entry) : ℚ :=
  match entry.signedAmount with
  | .ok amount => amount.value
  | .error _ => 0

/-- Is the signed amount of the entry a number of cents? -/
def IsCounted (entry : Entry) : Prop :=
  ∃ signed cents, entry.signedAmount = .ok signed ∧ signed.IsCents cents

/-- The exact sum of the entries that have moved money on an account of an owner. -/
def posted (owner : String) (id : Int) (entries : List Entry) : ℚ :=
  ((entries.filter fun entry => entry.owner = owner ∧ entry.account = some id
    ∧ entry.settlement = .confirmed).map signedValue).sum

@[simp]
theorem posted_nil : posted owner id [] = 0 :=
  rfl

theorem posted_cons (entry : Entry) (rest : List Entry) :
    posted owner id (entry :: rest)
      = (if entry.owner = owner ∧ entry.account = some id ∧ entry.settlement = .confirmed
          then entry.signedValue else 0) + posted owner id rest := by
  unfold posted
  rw [List.filter_cons]
  split_ifs <;> simp_all

theorem posted_append (first second : List Entry) :
    posted owner id (first ++ second) = posted owner id first + posted owner id second := by
  simp [posted]

theorem signedValue_of_signedAmount {entry : Entry} {signed : Decimal}
    (signed_eq : entry.signedAmount = .ok signed) (counted : signed.IsCents cents) :
    entry.signedValue = cents / 100 := by
  rw [signedValue, signed_eq]
  exact (Decimal.isCents_iff.mp counted).2

/-! ## Rows of a batch -/

/-- May the entry be part of a batch: an expense or an income of a moderate amount? -/
def IsPlain (entry : NewEntry) : Prop :=
  entry.kind ≠ .transfer ∧ IsModerate entry.amount

/-- The row of an entry counts with what the entry adds to its account. -/
theorem IsRowOf.exists_signedAmount_eq {entry : NewEntry} {row : Entry}
    (of_entry : IsRowOf entry row) (plain : IsPlain entry) :
    ∃ signed cents, row.signedAmount = .ok signed ∧ signed.IsCents cents ∧ cents.natAbs < 10 ^ 12
      ∧ ∀ account, entry.account = some account → ∃ delta, entry.balanceDelta = .ok delta
        ∧ delta.IsCents (if entry.settlement = .confirmed then cents else 0) := by
  rcases of_entry with ⟨number, stored, stored_eq, rfl⟩
  rcases plain with ⟨not_transfer, cents, counted, positive, small⟩
  have read := (Stored.within_of_isCents counted (abs_lt.mpr ⟨by linarith, small⟩) stored_eq).2
  have few : cents.natAbs < 10 ^ 28 := by omega
  have waiting : ∀ account, entry.account = some account → entry.settlement ≠ .confirmed →
      entry.balanceDelta = .ok .zero := by
    intro account assigned pending
    simp [NewEntry.balanceDelta, pending]
  cases kind : entry.kind with
  | transfer => exact absurd kind not_transfer
  | income =>
      refine ⟨stored.toDecimal, cents, by simp [signedAmount, ofNew, kind], read, by omega, ?_⟩
      intro account assigned
      split_ifs with confirmed
      · exact ⟨entry.amount, by simp [NewEntry.balanceDelta, kind, confirmed, assigned], counted⟩
      · exact ⟨.zero, waiting account assigned confirmed, Decimal.isUnits_zero _⟩
  | expense =>
      rcases Decimal.exists_neg_eq_of_isCents counted few with ⟨delta, delta_eq, delta_counted⟩
      rcases Decimal.exists_neg_eq_of_isCents read few with ⟨signed, signed_eq, signed_counted⟩
      refine ⟨signed, -cents, by simp [signedAmount, ofNew, kind, signed_eq], signed_counted,
        by omega, ?_⟩
      intro account assigned
      split_ifs with confirmed
      · exact ⟨delta, by simp [NewEntry.balanceDelta, kind, confirmed, assigned, delta_eq],
          delta_counted⟩
      · exact ⟨.zero, waiting account assigned confirmed, Decimal.isUnits_zero _⟩

/-- What an entry posts to its own account. -/
theorem IsRowOf.posted_eq {entry : NewEntry} {row : Entry} (of_entry : IsRowOf entry row) :
    posted owner id [row] =
      if entry.owner = owner ∧ entry.account = some id ∧ entry.settlement = .confirmed
      then row.signedValue else 0 := by
  rcases of_entry with ⟨number, stored, -, rfl⟩
  rw [posted_cons, posted_nil, add_zero]
  rfl

/-! ## Sums of a batch -/

theorem natAbs_lt_of_abs_lt (small : |(cents : ℚ) / 100| < 10 ^ 26) :
    cents.natAbs < 10 ^ 28 := by
  rw [abs_div, abs_of_pos (by norm_num : (0 : ℚ) < 100), div_lt_iff₀ (by norm_num)] at small
  have bounded : |cents| < 10 ^ 28 := by
    have whole : |(cents : ℚ)| < 10 ^ 28 := by linarith
    exact_mod_cast whole
  rw [Int.abs_eq_natAbs] at bounded
  exact_mod_cast bounded

/-- A sum of cents that counts as zero is zero. -/
theorem cents_eq_zero {sum : Decimal} (counted : sum.IsCents cents)
    (nothing : sum.isNonzero = false) : cents = 0 := by
  rcases Decimal.isCents_iff.mp counted with ⟨finite, value_eq⟩
  rw [Decimal.isNonzero_of_isFinite finite, value_eq] at nothing
  have zero : (cents : ℚ) / 100 = 0 := by simpa using nothing
  exact_mod_cast (div_eq_zero_iff.mp zero).resolve_right (by norm_num)

variable {changes summed : List Change} {base : Int}

/-- One more entry adds what its row posts to the sum for an account. -/
theorem sumsFor_of_addEntry {entry : NewEntry} {row : Entry} (of_entry : IsRowOf entry row)
    (plain : IsPlain entry) (step : addEntry changes entry = .ok summed)
    (counted : ((sumsFor owner id changes).headD .zero).IsCents base)
    (few : |(base : ℚ) / 100| < 10 ^ 26)
    (fewTogether : |(base : ℚ) / 100 + posted owner id [row]| < 10 ^ 26) :
    ∃ total : Int, ((sumsFor owner id summed).headD .zero).IsCents total
      ∧ (total : ℚ) / 100 = base / 100 + posted owner id [row]
      ∧ (sumsFor owner id summed).tail = (sumsFor owner id changes).tail := by
  rw [of_entry.posted_eq] at fewTogether ⊢
  obtain ⟨signed, cents, signed_eq, signed_counted, small, delta_of⟩ :=
    of_entry.exists_signedAmount_eq plain
  rw [signedValue_of_signedAmount signed_eq signed_counted] at fewTogether ⊢
  by_cases here : entry.owner = owner ∧ entry.account = some id
  · rcases sumsFor_addEntry_of_for here step with ⟨delta, sum, delta_eq, sum_eq, sums_eq⟩
    rcases delta_of id here.2 with ⟨same_delta, same_delta_eq, delta_counted⟩
    obtain rfl := Except.ok.inj (delta_eq.symm.trans same_delta_eq)
    have gained : (base : ℚ) / 100 + (if entry.owner = owner ∧ entry.account = some id
        ∧ entry.settlement = .confirmed then (cents : ℚ) / 100 else 0)
        = ((base + if entry.settlement = .confirmed then cents else 0 : Int) : ℚ) / 100 := by
      by_cases confirmed : entry.settlement = .confirmed
      · simp only [here, confirmed, and_self, if_true]
        push_cast
        ring
      · simp [confirmed]
    rw [gained] at fewTogether ⊢
    obtain ⟨same, same_eq, total_counted⟩ := Decimal.exists_add_eq_of_isCents counted
      delta_counted (natAbs_lt_of_abs_lt few) (by split_ifs <;> omega)
      (natAbs_lt_of_abs_lt fewTogether)
    obtain rfl : sum = same := Except.ok.inj (sum_eq.symm.trans same_eq)
    refine ⟨_, ?_, rfl, ?_⟩ <;> rw [sums_eq]
    · exact total_counted
    · rfl
  · have elsewhere : ¬(entry.owner = owner ∧ entry.account = some id
        ∧ entry.settlement = .confirmed) := fun ⟨same_owner, same_account, _⟩ =>
      here ⟨same_owner, same_account⟩
    rw [sumsFor_addEntry_of_not_for here step, if_neg elsewhere]
    exact ⟨base, counted, by ring, rfl⟩

/-- The sum for an account is the exact sum of what the rows of a batch post to it, as long as no
sum on the way is too long. -/
theorem sumsFor_of_foldlM {entries : List NewEntry} {rows : List Entry}
    (of_entries : List.Forall₂ IsRowOf entries rows) (plain : ∀ entry ∈ entries, IsPlain entry)
    (run : entries.foldlM addEntry changes = .ok summed)
    (counted : ((sumsFor owner id changes).headD .zero).IsCents base)
    (bounded : ∀ first, first <+: rows → |(base : ℚ) / 100 + posted owner id first| < 10 ^ 26) :
    ∃ total : Int, ((sumsFor owner id summed).headD .zero).IsCents total
      ∧ (total : ℚ) / 100 = base / 100 + posted owner id rows
      ∧ (sumsFor owner id summed).tail = (sumsFor owner id changes).tail := by
  induction of_entries generalizing changes base with
  | nil =>
      cases run
      exact ⟨base, counted, by simp, rfl⟩
  | @cons entry row laterEntries laterRows of_entry of_rest ih =>
      rw [List.forall_mem_cons] at plain
      rw [List.foldlM_cons] at run
      cases step : addEntry changes entry with
      | error error =>
          rw [step] at run
          cases run
      | ok next =>
          rw [step] at run
          obtain ⟨middle, middle_counted, middle_eq, middle_tail⟩ :=
            sumsFor_of_addEntry of_entry plain.1 step counted
              (by simpa using bounded [] (List.nil_prefix))
              (bounded [row] (by simp))
          have split_rows : ∀ later, posted owner id (row :: later)
              = posted owner id [row] + posted owner id later :=
            fun later => posted_append [row] later
          obtain ⟨total, total_counted, total_eq, total_tail⟩ :=
            ih plain.2 run middle_counted fun first before => by
              rw [middle_eq, add_assoc, ← split_rows]
              exact bounded (row :: first) (List.cons_prefix_cons.mpr ⟨rfl, before⟩)
          refine ⟨total, total_counted, ?_, total_tail.trans middle_tail⟩
          rw [total_eq, middle_eq, split_rows laterRows, add_assoc]

/-- Rows of plain entries are counted. -/
theorem isCounted_of_forall₂ {entries : List NewEntry} {rows : List Entry}
    (of_entries : List.Forall₂ IsRowOf entries rows) (plain : ∀ entry ∈ entries, IsPlain entry) :
    ∀ row ∈ rows, row.IsCounted := by
  refine forall_mem_rows of_entries fun entry member row of_entry => ?_
  rcases of_entry.exists_signedAmount_eq (plain entry member) with
    ⟨signed, cents, signed_eq, counted, -⟩
  exact ⟨signed, cents, signed_eq, counted⟩

/-- What counted entries add up to is a number of cents. -/
theorem exists_posted_eq {entries : List Entry} (counted : ∀ entry ∈ entries, entry.IsCounted) :
    ∃ cents : Int, posted owner id entries = cents / 100 := by
  induction entries with
  | nil => exact ⟨0, by simp⟩
  | cons entry rest ih =>
      rw [List.forall_mem_cons] at counted
      rcases counted.1 with ⟨signed, cents, signed_eq, signed_counted⟩
      rcases ih counted.2 with ⟨others, others_eq⟩
      rw [posted_cons, others_eq, signedValue_of_signedAmount signed_eq signed_counted]
      split_ifs
      · exact ⟨cents + others, by push_cast; ring⟩
      · exact ⟨others, by ring⟩

/-- A batch of plain entries adds one sum at most to a balance: what its rows post to the account,
exactly. -/
theorem Recorded.exists_sums {entries : List NewEntry} {ids : List Int} {before after : Ledger}
    (written : Recorded entries ids before after) (plain : ∀ entry ∈ entries, IsPlain entry)
    (short : ∀ rows, rows <+: after.entries → |posted owner id rows| < 10 ^ 25) :
    ∃ total : Int, posted owner id after.entries = posted owner id before.entries + total / 100
      ∧ ∃ sums, Applied sums (before.account? owner id) (after.account? owner id)
        ∧ (sums = [] ∧ total = 0 ∨ ∃ sum, sums = [sum] ∧ sum.IsCents total) := by
  rcases written.rows with ⟨rows, of_entries, -, appended⟩
  rcases written.balances with ⟨changes, folded, applied⟩
  have start : ((sumsFor owner id []).headD .zero).IsCents 0 := Decimal.isUnits_zero _
  obtain ⟨total, counted, total_eq, alone⟩ :=
    sumsFor_of_foldlM of_entries plain folded start (by
      intro first part
      have longer := short (before.entries ++ first) (by
        rw [appended]
        exact (List.prefix_append_right_inj _).mpr part)
      have shorter := short before.entries (by
        rw [appended]
        exact List.prefix_append ..)
      rw [posted_append] at longer
      rw [abs_lt] at longer shorter ⊢
      norm_num at longer shorter ⊢
      constructor <;> linarith)
  refine ⟨total, by rw [appended, posted_append, total_eq]; simp, _, applied owner id, ?_⟩
  cases sums : sumsFor owner id changes with
  | nil =>
      rw [sums] at counted
      exact .inl ⟨rfl, counted.unique (Decimal.isUnits_zero _)⟩
  | cons sum rest =>
      rw [sums] at counted alone
      obtain rfl : rest = [] := alone
      exact .inr ⟨sum, rfl, counted⟩

/-! ## Batches for one account -/

variable {entries : List NewEntry}

/-- Does an entry add so many cents to an account once the money has moved, and nothing before? -/
structure Adds (owner : String) (id signed : Int) (entry : NewEntry) : Prop where
  owner : entry.owner = owner
  account : entry.account = some id
  delta : ∃ delta, entry.balanceDelta = .ok delta
    ∧ delta.IsCents (if entry.settlement = .confirmed then signed else 0)

/-- How many entries have moved money. -/
def settledCount (entries : List NewEntry) : Nat :=
  entries.countP fun entry => entry.settlement = .confirmed

theorem settledCount_cons (entry : NewEntry) (rest : List NewEntry) :
    settledCount (entry :: rest)
      = settledCount rest + if entry.settlement = .confirmed then 1 else 0 := by
  simp [settledCount, List.countP_cons]

/-- One more entry adds to the only sum there is. -/
theorem Adds.exists_addEntry_eq {signed base : Int} {start : Decimal} {entry : NewEntry}
    (adds : Adds owner id signed entry) (counted : start.IsCents base)
    (few : base.natAbs + (if entry.settlement = .confirmed then signed.natAbs else 0) < 10 ^ 28) :
    ∃ sum, addEntry [⟨owner, id, start⟩] entry = .ok [⟨owner, id, sum⟩]
      ∧ sum.IsCents (base + if entry.settlement = .confirmed then signed else 0) := by
  rcases adds with ⟨rfl, account, delta, delta_eq, delta_counted⟩
  have delta_few : (if entry.settlement = .confirmed then signed else 0 : Int).natAbs
      = if entry.settlement = .confirmed then signed.natAbs else 0 := by
    split_ifs <;> simp
  obtain ⟨sum, sum_eq, sum_counted⟩ := Decimal.exists_add_eq_of_isCents counted delta_counted
    (by omega) (by omega) (by omega)
  refine ⟨sum, ?_, sum_counted⟩
  simp only [addEntry, account, delta_eq]
  simp [addChange, sum_eq, bind, Except.bind, pure, Except.pure]

/-- The entries of one account add up exactly. -/
theorem exists_foldlM_addEntry_eq {signed base : Int} {start : Decimal}
    (adds : ∀ entry ∈ entries, Adds owner id signed entry) (counted : start.IsCents base)
    (few : base.natAbs + settledCount entries * signed.natAbs < 10 ^ 28) :
    ∃ sum, entries.foldlM addEntry [⟨owner, id, start⟩] = .ok [⟨owner, id, sum⟩]
      ∧ sum.IsCents (base + settledCount entries * signed) := by
  induction entries generalizing base start with
  | nil => exact ⟨start, rfl, by simpa [settledCount] using counted⟩
  | cons entry rest ih =>
      rw [List.forall_mem_cons] at adds
      rw [settledCount_cons] at few ⊢
      have first_few : base.natAbs
          + (if entry.settlement = .confirmed then signed.natAbs else 0) < 10 ^ 28 := by
        refine lt_of_le_of_lt ?_ few
        split_ifs
        · rw [Nat.succ_mul]
          omega
        · omega
      rcases adds.1.exists_addEntry_eq counted first_few with ⟨next, step, next_counted⟩
      have rest_few : (base + if entry.settlement = .confirmed then signed else 0 : Int).natAbs
          + settledCount rest * signed.natAbs < 10 ^ 28 := by
        refine lt_of_le_of_lt ?_ few
        split_ifs
        · rw [Nat.succ_mul]
          omega
        · simp
      rcases ih adds.2 next_counted rest_few with ⟨sum, later, sum_counted⟩
      refine ⟨sum, ?_, ?_⟩
      · rw [List.foldlM_cons, step]
        exact later
      · convert sum_counted using 1
        split_ifs
        · push_cast
          ring
        · simp

/-- A batch for one account leads to one sum. -/
theorem exists_sum_of_adds {signed : Int} (nonempty : entries ≠ [])
    (adds : ∀ entry ∈ entries, Adds owner id signed entry)
    (few : settledCount entries * signed.natAbs < 10 ^ 28) :
    ∃ sum, entries.foldlM addEntry [] = .ok [⟨owner, id, sum⟩]
      ∧ sum.IsCents (settledCount entries * signed) := by
  obtain ⟨sum, folded, counted⟩ := exists_foldlM_addEntry_eq adds (Decimal.isUnits_zero (-2))
    (by simpa using few)
  rw [zero_add] at counted
  refine ⟨sum, ?_, counted⟩
  cases entries with
  | nil => exact absurd rfl nonempty
  | cons entry rest =>
      rw [List.forall_mem_cons] at adds
      -- The first entry opens the sum that it would otherwise add to.
      have opened : addEntry [] entry = addEntry [⟨owner, id, .zero⟩] entry := by
        simp only [addEntry, adds.1.account, adds.1.owner]
        simp [addChange]
      rw [List.foldlM_cons] at folded ⊢
      rwa [opened]

/-- Entries without an account lead to no sum. -/
theorem foldlM_addEntry_of_none (unassigned : ∀ entry ∈ entries, entry.account = none) :
    entries.foldlM addEntry [] = .ok [] := by
  induction entries with
  | nil => rfl
  | cons entry rest ih =>
      rw [List.forall_mem_cons] at unassigned
      rw [List.foldlM_cons, addEntry, unassigned.1]
      exact ih unassigned.2

end Entry

/-! ## Rows of a transfer -/

namespace Transfer

open Entry

variable {movement : Movement} {stored : Stored} {description : String} {date : Date}

/-- The outgoing side of a transfer counts against its account. -/
theorem exists_signedAmount_outgoing (counted : movement.amount.IsCents cents)
    (small : |cents| < 10 ^ 12) (stored_eq : Stored.ofDecimal? movement.amount = some stored)
    (number account destination : Int) :
    ∃ signed, (side number movement stored description date account
        (some destination)).signedAmount = .ok signed ∧ signed.IsCents (-cents) := by
  have read := (Stored.within_of_isCents counted small stored_eq).2
  obtain ⟨signed, signed_eq, signed_counted⟩ := Decimal.exists_neg_eq_of_isCents read (by
    rw [Int.abs_eq_natAbs] at small
    omega)
  exact ⟨signed, by simp [signedAmount, side, signed_eq], signed_counted⟩

/-- The incoming side of a transfer counts for its account. -/
theorem exists_signedAmount_incoming (counted : movement.amount.IsCents cents)
    (small : |cents| < 10 ^ 12) (stored_eq : Stored.ofDecimal? movement.amount = some stored)
    (number account : Int) :
    ∃ signed, (side number movement stored description date account none).signedAmount = .ok signed
      ∧ signed.IsCents cents :=
  ⟨_, rfl, (Stored.within_of_isCents counted small stored_eq).2⟩

/-- The rows of a transfer are counted. -/
theorem isCounted_withRows {ledger : Ledger} (counted : movement.amount.IsCents cents)
    (small : |cents| < 10 ^ 12) (stored_eq : Stored.ofDecimal? movement.amount = some stored)
    (before : ∀ entry ∈ ledger.entries, entry.IsCounted) :
    ∀ entry ∈ (withRows movement stored description date ledger).entries, entry.IsCounted := by
  intro entry member
  rcases List.mem_append.mp member with earlier | new
  · exact before entry earlier
  · rw [List.mem_pair] at new
    rcases new with rfl | rfl
    · obtain ⟨signed, signed_eq, signed_counted⟩ :=
        exists_signedAmount_outgoing counted small stored_eq _ _ _
      exact ⟨signed, _, signed_eq, signed_counted⟩
    · obtain ⟨signed, signed_eq, signed_counted⟩ :=
        exists_signedAmount_incoming counted small stored_eq _ _
      exact ⟨signed, _, signed_eq, signed_counted⟩

/-- What the rows of a transfer post to an account. -/
theorem posted_withRows {ledger : Ledger} (counted : movement.amount.IsCents cents)
    (small : |cents| < 10 ^ 12) (stored_eq : Stored.ofDecimal? movement.amount = some stored) :
    posted owner id (withRows movement stored description date ledger).entries
      = posted owner id ledger.entries
        + ((if owner = movement.owner ∧ id = movement.source then -cents else 0)
          + (if owner = movement.owner ∧ id = movement.target then cents else 0) : Int) / 100 := by
  have outgoing : ∀ number account destination,
      (side number movement stored description date account (some destination)).signedValue
        = (-cents : Int) / 100 := by
    intro number account destination
    obtain ⟨signed, signed_eq, signed_counted⟩ :=
      exists_signedAmount_outgoing counted small stored_eq number account destination
    exact signedValue_of_signedAmount signed_eq signed_counted
  have incoming : ∀ number account,
      (side number movement stored description date account none).signedValue = cents / 100 := by
    intro number account
    obtain ⟨signed, signed_eq, signed_counted⟩ :=
      exists_signedAmount_incoming counted small stored_eq number account
    exact signedValue_of_signedAmount signed_eq signed_counted
  rw [withRows, posted_append, posted_cons, posted_cons, posted_nil, outgoing, incoming]
  simp only [side, and_true, Option.some.injEq, eq_comm (b := owner), eq_comm (b := id)]
  split_ifs <;> push_cast <;> ring

/-- A transfer keeps entries counted. -/
theorem Effect.isCounted {record : Int} {before after : Ledger}
    (effect : Effect movement description date before record after)
    (counted : movement.amount.IsCents cents) (small : |cents| < 10 ^ 12)
    (earlier : ∀ entry ∈ before.entries, entry.IsCounted) :
    ∀ entry ∈ after.entries, entry.IsCounted := by
  cases effect with
  | intro source_found stored covered debited target_found credited =>
    exact isCounted_withRows counted small stored earlier

/-- What a transfer posts to an account: its amount against the source and for the target. -/
theorem Effect.posted {record : Int} {before after : Ledger}
    (effect : Effect movement description date before record after)
    (counted : movement.amount.IsCents cents) (small : |cents| < 10 ^ 12) :
    Entry.posted owner id after.entries
      = Entry.posted owner id before.entries
        + ((if owner = movement.owner ∧ id = movement.source then -cents else 0)
          + (if owner = movement.owner ∧ id = movement.target then cents else 0) : Int) / 100 := by
  cases effect with
  | intro source_found stored covered debited target_found credited =>
    exact posted_withRows counted small stored

end Transfer

end Cashbook
