import Cashbook.Proofs.Ledger.Batches
import Cashbook.Proofs.Ledger.Sums

/-!
# The sign of an entry

An entry has a sign twice: what it adds to its account when it is written, and the signed amount
that its row shows afterwards.  Both agree for incomes and expenses.  An entry of a transfer that is
written as part of a batch takes its amount from the account, but its row has no destination and so
shows the amount as if it had come in.
-/

namespace Cashbook.Entry

open Call Money

variable {entries : List NewEntry} {entry : NewEntry} {ids : List Int} {world after : World}
  {id account cents : Int} {stored : Stored}

/-- What a confirmed entry adds to its account, in cents. -/
def gain (kind : EntryKind) (cents : Int) : Int :=
  if kind = .income then cents else -cents

/-- What the row of an entry shows, in cents: for a transfer, the amount as if it had come in. -/
def shownGain (kind : EntryKind) (cents : Int) : Int :=
  if kind = .expense then -cents else cents

theorem exists_balanceDelta_isCents (assigned : entry.account = some account)
    (confirmed : entry.settlement = .confirmed) (counted : entry.amount.IsCents cents)
    (few : cents.natAbs < 10 ^ 28) :
    ∃ delta, entry.balanceDelta = .ok delta ∧ delta.IsCents (gain entry.kind cents) := by
  rcases Decimal.exists_neg_eq_of_isCents counted few with ⟨turned, turned_eq, turned_counted⟩
  by_cases comes_in : entry.kind = .income
  · exact ⟨entry.amount, by simp [NewEntry.balanceDelta, assigned, confirmed, comes_in],
      by simpa [gain, comes_in] using counted⟩
  · exact ⟨turned, by simp [NewEntry.balanceDelta, assigned, confirmed, comes_in, turned_eq],
      by simpa [gain, comes_in] using turned_counted⟩

theorem exists_signedAmount_isCents (counted : stored.toDecimal.IsCents cents)
    (few : cents.natAbs < 10 ^ 28) :
    ∃ signed, (ofNew id stored entry).signedAmount = .ok signed
      ∧ signed.IsCents (shownGain entry.kind cents) := by
  rcases Decimal.exists_neg_eq_of_isCents counted few with ⟨turned, turned_eq, turned_counted⟩
  cases kind : entry.kind with
  | expense =>
      exact ⟨turned, by simp [signedAmount, ofNew, kind, turned_eq], turned_counted⟩
  | income => exact ⟨stored.toDecimal, by simp [signedAmount, ofNew, kind], counted⟩
  | transfer => exact ⟨stored.toDecimal, by simp [signedAmount, ofNew, kind], counted⟩

/-- Both signs agree except for a transfer of something. -/
theorem shownGain_eq_gain_iff (kind : EntryKind) (cents : Int) :
    shownGain kind cents = gain kind cents ↔ kind ≠ .transfer ∨ cents = 0 := by
  cases kind <;> simp [shownGain, gain]
  omega

/-- The row of a confirmed entry shows what the entry added to its account, exactly unless it is an
entry of a transfer of something.  The account takes that together with what the rest of the batch
adds to it. -/
theorem signedAmount_eq_balanceDelta_iff (run : record entries world = .ok ids after)
    (pair : (entry, id) ∈ entries.zip ids) (word : Integer.isWord id = true)
    (assigned : entry.account = some account) (confirmed : entry.settlement = .confirmed)
    (counted : entry.amount.IsCents cents) (small : |cents| < 10 ^ 12) :
    ∃ row delta signed, find id after = .ok (some row) after ∧ entry.balanceDelta = .ok delta
      ∧ row.signedAmount = .ok signed ∧ delta.isFinite = true ∧ signed.isFinite = true
      ∧ (signed.value = delta.value ↔ entry.kind ≠ .transfer ∨ entry.amount.value = 0)
      ∧ (entry.kind = .transfer → signed.value = -delta.value)
      ∧ ∃ sum, sumFor entry.owner account entries = .ok sum
        ∧ Applied [sum] (world.ledger.account? entry.owner account)
          (after.ledger.account? entry.owner account) := by
  have written := isWritten_of_record_eq_ok run
  rcases (List.forall₂_iff_zip.mp written.found).2 pair with ⟨stored, stored_eq, found⟩
  have few : cents.natAbs < 10 ^ 28 := by
    rw [Int.abs_eq_natAbs] at small
    omega
  have read := (Stored.within_of_isCents counted small stored_eq).2
  rcases exists_balanceDelta_isCents assigned confirmed counted few with
    ⟨delta, delta_eq, delta_finite, delta_value⟩
  obtain ⟨signed, signed_eq, signed_finite, signed_value⟩ :
      ∃ signed, (ofNew id stored entry).signedAmount = .ok signed
        ∧ signed.IsCents (shownGain entry.kind cents) := exists_signedAmount_isCents read few
  refine ⟨_, delta, signed, found word, delta_eq, signed_eq, delta_finite, signed_finite, ?_, ?_,
    written.balances entry.owner account⟩
  · have scale : (10 : ℚ) ^ (-2 : Int) ≠ 0 := by positivity
    rw [signed_value, delta_value, counted.2, mul_left_inj' scale, Int.cast_inj,
      shownGain_eq_gain_iff, mul_eq_zero_iff_right scale, Int.cast_eq_zero]
  · intro moved
    rw [signed_value, delta_value, moved]
    simp [shownGain, gain]

/-- Money that is noted as a transfer. -/
def setAside (kind : EntryKind) : NewEntry where
  owner := "ana"
  kind := kind
  amount := .ofCents false 110
  description := "Reserva"
  date := World.newYear.today
  account := some 1

/-- An expense shows what it took. -/
theorem signedAmount_eq_balanceDelta_iff_expense : ∃ ids after, ∃ row delta signed,
    record [setAside .income, setAside .expense] twoWallets = .ok ids after
      ∧ find 2 after = .ok (some row) after ∧ (setAside .expense).balanceDelta = .ok delta
      ∧ row.signedAmount = .ok signed ∧ signed.value = delta.value := by
  have answered : (record [setAside .income, setAside .expense]).answer twoWallets
      = .ok [1, 2] := by
    decide +kernel
  rcases answer_eq_ok_iff.mp answered with ⟨after, run⟩
  obtain ⟨row, delta, signed, found, delta_eq, signed_eq, -, -, agrees, -⟩ :=
    signedAmount_eq_balanceDelta_iff run (by simp : (setAside .expense, (2 : Int)) ∈ _)
      (by decide) rfl rfl (Decimal.isUnits_finite_iff.mpr rfl) (by decide)
  exact ⟨[1, 2], after, row, delta, signed, run, found, delta_eq, signed_eq,
    agrees.mpr (.inl (by decide))⟩

/-- A transfer takes its amount and shows it as if it had come in. -/
theorem signedAmount_ne_balanceDelta :
    (record [setAside .transfer]).answer twoWallets = .ok [1]
    ∧ (((record [setAside .transfer]).worldAfter twoWallets).ledger.account? "ana" 1).map
        (fun account => account.balance.toDecimal) = some (.ofCents false 890)
    ∧ (setAside .transfer).balanceDelta = .ok (.ofCents true 110)
    ∧ ((find 1).answer ((record [setAside .transfer]).worldAfter twoWallets)).map
        (fun row => row.map Entry.signedAmount) = .ok (some (.ok (.ofCents false 110)))
    ∧ (Decimal.ofCents true 110).order? (.ofCents false 110) = some .lt := by
  decide +kernel

end Cashbook.Entry
