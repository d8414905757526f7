import Cashbook.Proofs.Decimal.Bounds
import Cashbook.Proofs.Ledger.Recording

/-!
# What a batch adds up to

What a batch adds to an account is the sum of what its entries for that account add, in their order,
whatever stands between them.  The accounts come in the order in which they appear first.
-/

namespace Cashbook

open Decimal

/-- The account of an owner that a new entry is posted to. -/
def NewEntry.place? (entry : NewEntry) : Option (String × Int) :=
  entry.account.map fun account => (entry.owner, account)

namespace Entry

/-- The account of an owner that a sum is for. -/
def Change.place (change : Change) : String × Int :=
  (change.owner, change.account)

variable {owner : String} {account : Int} {amount start sum : Decimal} {entry : NewEntry}
  {changes summed : List Change} {entries : List NewEntry}

/-! ## Sums of an account -/

/-- The entries of a batch for an account of an owner. -/
def entriesFor (owner : String) (account : Int) (entries : List NewEntry) : List NewEntry :=
  entries.filter fun entry => entry.owner = owner ∧ entry.account = some account

/-- A sum with what entries add to it, one after another. -/
def addUp (start : Decimal) (entries : List NewEntry) : Except ArithmeticError Decimal := do
  (← entries.mapM NewEntry.balanceDelta).foldlM Decimal.add start

/-- The sum of what a batch adds to an account of an owner. -/
def sumFor (owner : String) (account : Int) (entries : List NewEntry) :
    Except ArithmeticError Decimal := do
  Decimal.sum (← (entriesFor owner account entries).mapM NewEntry.balanceDelta)

theorem sumFor_eq (owner : String) (account : Int) (entries : List NewEntry) :
    sumFor owner account entries = addUp .zero (entriesFor owner account entries) :=
  rfl

theorem entriesFor_cons_of_for (entry : NewEntry) (entries : List NewEntry)
    (here : entry.owner = owner ∧ entry.account = some account) :
    entriesFor owner account (entry :: entries) = entry :: entriesFor owner account entries :=
  List.filter_cons_of_pos (by simpa using here)

theorem entriesFor_cons_of_not_for (entry : NewEntry) (entries : List NewEntry)
    (elsewhere : ¬(entry.owner = owner ∧ entry.account = some account)) :
    entriesFor owner account (entry :: entries) = entriesFor owner account entries :=
  List.filter_cons_of_neg (by simpa using elsewhere)

theorem mem_of_mem_entriesFor (member : entry ∈ entriesFor owner account entries) :
    entry ∈ entries :=
  List.mem_of_mem_filter member

theorem addUp_cons_eq_ok_iff : addUp start (entry :: entries) = .ok sum ↔
    ∃ delta next, entry.balanceDelta = .ok delta ∧ start.add delta = .ok next
      ∧ addUp next entries = .ok sum := by
  unfold addUp
  rw [List.mapM_cons]
  constructor
  · intro run
    rcases Except.bind_eq_ok_iff.mp run with ⟨deltas, deltas_eq, added⟩
    rcases Except.bind_eq_ok_iff.mp deltas_eq with ⟨delta, delta_eq, rest⟩
    rcases Except.bind_eq_ok_iff.mp rest with ⟨others, others_eq, ⟨⟩⟩
    rw [List.foldlM_cons] at added
    rcases Except.bind_eq_ok_iff.mp added with ⟨next, next_eq, last⟩
    exact ⟨delta, next, delta_eq, next_eq, Except.bind_eq_ok_iff.mpr ⟨others, others_eq, last⟩⟩
  · rintro ⟨delta, next, delta_eq, next_eq, run⟩
    rcases Except.bind_eq_ok_iff.mp run with ⟨others, others_eq, last⟩
    rw [delta_eq, others_eq]
    change (delta :: others).foldlM Decimal.add start = .ok sum
    rw [List.foldlM_cons]
    exact Except.bind_eq_ok_iff.mpr ⟨next, next_eq, last⟩

/-! ## One entry -/

/-- One more amount is added up if it can be added to the sum of its account. -/
theorem exists_addChange_eq
    (added : ((sumsFor owner account changes).headD .zero).add amount = .ok sum) :
    ∃ summed, addChange owner account amount changes = .ok summed := by
  induction changes with
  | nil => exact ⟨_, Except.bind_eq_ok_iff.mpr ⟨sum, added, rfl⟩⟩
  | cons change rest ih =>
      unfold sumsFor at added ih
      by_cases here : change.owner = owner ∧ change.account = account
      · rw [List.filter_cons_of_pos (by simpa using here)] at added
        simp only [addChange, here, and_self, if_true]
        exact ⟨_, Except.bind_eq_ok_iff.mpr ⟨sum, added, rfl⟩⟩
      · rw [List.filter_cons_of_neg (by simpa using here)] at added
        rcases ih added with ⟨summed, later⟩
        simp only [addChange, here, if_false]
        exact ⟨_, Except.bind_eq_ok_iff.mpr ⟨summed, later, rfl⟩⟩

/-- An entry adds to the sum of its account. -/
theorem sumsFor_addEntry_of_for (here : entry.owner = owner ∧ entry.account = some account)
    (step : addEntry changes entry = .ok summed) :
    ∃ delta sum, entry.balanceDelta = .ok delta
      ∧ ((sumsFor owner account changes).headD .zero).add delta = .ok sum
      ∧ sumsFor owner account summed = sum :: (sumsFor owner account changes).tail := by
  rcases here with ⟨rfl, assigned⟩
  simp only [addEntry, assigned] at step
  rcases Except.bind_eq_ok_iff.mp step with ⟨delta, delta_eq, added⟩
  rcases (sumsFor_of_addChange added).1 with ⟨sum, sum_eq, sums_eq⟩
  exact ⟨delta, sum, delta_eq, sum_eq, sums_eq⟩

/-- An entry leaves the sums of other accounts alone. -/
theorem sumsFor_addEntry_of_not_for
    (elsewhere : ¬(entry.owner = owner ∧ entry.account = some account))
    (step : addEntry changes entry = .ok summed) :
    sumsFor owner account summed = sumsFor owner account changes := by
  unfold addEntry at step
  cases assigned : entry.account with
  | none =>
      simp only [assigned] at step
      cases step
      rfl
  | some other =>
      simp only [assigned] at step
      rcases Except.bind_eq_ok_iff.mp step with ⟨delta, -, added⟩
      apply (sumsFor_of_addChange added).2
      rintro ⟨rfl, rfl⟩
      exact elsewhere ⟨rfl, assigned⟩

/-! ## Batches -/

/-- What is summed up for an account is the sum of the entries for it. -/
theorem exists_addUp_of_foldlM (folded : entries.foldlM addEntry changes = .ok summed)
    (owner : String) (account : Int) :
    ∃ sum, addUp ((sumsFor owner account changes).headD .zero) (entriesFor owner account entries)
        = .ok sum
      ∧ sumsFor owner account summed
        = if entriesFor owner account entries = [] then sumsFor owner account changes
          else sum :: (sumsFor owner account changes).tail := by
  induction entries generalizing changes with
  | nil =>
      cases folded
      exact ⟨_, rfl, rfl⟩
  | cons entry rest ih =>
      rw [List.foldlM_cons] at folded
      rcases Except.bind_eq_ok_iff.mp folded with ⟨next, step, later⟩
      rcases ih later with ⟨sum, sum_eq, sums_eq⟩
      by_cases here : entry.owner = owner ∧ entry.account = some account
      · rcases sumsFor_addEntry_of_for here step with ⟨delta, first, delta_eq, first_eq, next_eq⟩
        rw [next_eq] at sum_eq sums_eq
        rw [entriesFor_cons_of_for entry rest here]
        refine ⟨sum, addUp_cons_eq_ok_iff.mpr ⟨delta, first, delta_eq, first_eq, sum_eq⟩, ?_⟩
        rw [sums_eq, if_neg (List.cons_ne_nil _ _)]
        split_ifs with last
        · rw [last] at sum_eq
          cases sum_eq
          rfl
        · rfl
      · rw [sumsFor_addEntry_of_not_for here step] at sum_eq sums_eq
        rw [entriesFor_cons_of_not_for entry rest here]
        exact ⟨sum, sum_eq, sums_eq⟩

/-- A batch is summed up if the entries for each account are. -/
theorem exists_foldlM_addEntry_of_forall (each : ∀ owner account, ∃ sum,
      addUp ((sumsFor owner account changes).headD .zero) (entriesFor owner account entries)
        = .ok sum) :
    ∃ summed, entries.foldlM addEntry changes = .ok summed := by
  induction entries generalizing changes with
  | nil => exact ⟨changes, rfl⟩
  | cons entry rest ih =>
      have step : ∃ next, addEntry changes entry = .ok next := by
        unfold addEntry
        cases assigned : entry.account with
        | none => exact ⟨changes, rfl⟩
        | some account =>
            rcases each entry.owner account with ⟨sum, sum_eq⟩
            rw [entriesFor_cons_of_for entry rest ⟨rfl, assigned⟩] at sum_eq
            obtain ⟨delta, next, delta_eq, next_eq, -⟩ := addUp_cons_eq_ok_iff.mp sum_eq
            rcases exists_addChange_eq next_eq with ⟨summed, added⟩
            exact ⟨summed, Except.bind_eq_ok_iff.mpr ⟨delta, delta_eq, added⟩⟩
      rcases step with ⟨next, step⟩
      rw [List.foldlM_cons, step]
      apply ih
      intro owner account
      rcases each owner account with ⟨sum, sum_eq⟩
      by_cases here : entry.owner = owner ∧ entry.account = some account
      · rcases sumsFor_addEntry_of_for here step with ⟨delta, first, delta_eq, first_eq, next_eq⟩
        rw [entriesFor_cons_of_for entry rest here] at sum_eq
        obtain ⟨same_delta, same_first, same_delta_eq, same_first_eq, last⟩ :=
          addUp_cons_eq_ok_iff.mp sum_eq
        obtain rfl := Except.ok.inj (delta_eq.symm.trans same_delta_eq)
        obtain rfl := Except.ok.inj (first_eq.symm.trans same_first_eq)
        rw [next_eq]
        exact ⟨sum, last⟩
      · rw [entriesFor_cons_of_not_for entry rest here] at sum_eq
        rw [sumsFor_addEntry_of_not_for here step]
        exact ⟨sum, sum_eq⟩

/-- A batch is summed up exactly when the entries for each account are. -/
theorem exists_foldlM_addEntry_iff : (∃ summed, entries.foldlM addEntry [] = .ok summed)
    ↔ ∀ owner account, ∃ sum, sumFor owner account entries = .ok sum := by
  constructor
  · rintro ⟨summed, folded⟩ owner account
    rcases exists_addUp_of_foldlM folded owner account with ⟨sum, sum_eq, -⟩
    exact ⟨sum, sum_eq⟩
  · intro each
    apply exists_foldlM_addEntry_of_forall
    exact each

/-- The sum of an account is the one of the entries for it, or nothing where there are none. -/
theorem sumsFor_eq_of_foldlM (folded : entries.foldlM addEntry [] = .ok summed)
    (sum_eq : sumFor owner account entries = .ok sum) :
    sumsFor owner account summed = if entriesFor owner account entries = [] then [] else [sum] := by
  rcases exists_addUp_of_foldlM folded owner account with ⟨same, same_eq, sums_eq⟩
  obtain rfl : same = sum := Except.ok.inj (same_eq.symm.trans sum_eq)
  exact sums_eq

theorem sumFor_of_mem {change : Change} (folded : entries.foldlM addEntry [] = .ok summed)
    (member : change ∈ summed) : sumFor change.owner change.account entries = .ok change.sum := by
  obtain ⟨sum, sum_eq⟩ :=
    exists_foldlM_addEntry_iff.mp ⟨summed, folded⟩ change.owner change.account
  have sums_eq := sumsFor_eq_of_foldlM folded sum_eq
  have listed : change.sum ∈ sumsFor change.owner change.account summed :=
    List.mem_map_of_mem (List.mem_filter.mpr ⟨member, by simp⟩)
  rw [sums_eq] at listed
  split_ifs at listed
  · cases listed
  · rw [sum_eq, List.mem_singleton.mp listed]

/-- An account takes what a batch adds up to for it. -/
theorem applied_sumsFor_iff {before after : Option Account}
    (folded : entries.foldlM addEntry [] = .ok summed)
    (sum_eq : sumFor owner account entries = .ok sum) :
    Applied (sumsFor owner account summed) before after ↔ Applied [sum] before after := by
  rw [sumsFor_eq_of_foldlM folded sum_eq]
  split_ifs with none
  · rw [sumFor_eq, none] at sum_eq
    obtain rfl : Decimal.zero = sum := Except.ok.inj sum_eq
    rw [applied_nil_iff, applied_singleton_iff]
    simp [isNonzero_of_isFinite (rfl : Decimal.zero.isFinite = true), (isUnits_zero 0).2]
  · exact Iff.rfl

/-! ## Places -/

/-- The accounts that sums are for come in the order in which they appear first. -/
theorem find?_place_of_addChange (run : addChange owner account amount changes = .ok summed)
    (admits : String × Int → Bool) :
    (summed.map Change.place).find? admits
      = (changes.map Change.place ++ [(owner, account)]).find? admits := by
  induction changes generalizing summed with
  | nil =>
      rcases Except.bind_eq_ok_iff.mp run with ⟨sum, -, ⟨⟩⟩
      rfl
  | cons change rest ih =>
      by_cases here : change.owner = owner ∧ change.account = account
      · rcases here with ⟨rfl, rfl⟩
        simp only [addChange, and_self, if_true] at run
        rcases Except.bind_eq_ok_iff.mp run with ⟨sum, -, ⟨⟩⟩
        simp only [List.map_cons, List.cons_append, List.find?_cons, List.find?_append,
          Change.place]
        cases admits (change.owner, change.account) <;> simp
      · simp only [addChange, here, if_false] at run
        rcases Except.bind_eq_ok_iff.mp run with ⟨later, added, ⟨⟩⟩
        rw [List.map_cons, List.map_cons, List.cons_append, List.find?_cons, List.find?_cons,
          ih added]

theorem find?_place_of_foldlM (folded : entries.foldlM addEntry changes = .ok summed)
    (admits : String × Int → Bool) :
    (summed.map Change.place).find? admits
      = (changes.map Change.place ++ entries.filterMap NewEntry.place?).find? admits := by
  induction entries generalizing changes with
  | nil =>
      cases folded
      simp
  | cons entry rest ih =>
      rw [List.foldlM_cons] at folded
      rcases Except.bind_eq_ok_iff.mp folded with ⟨next, step, later⟩
      rw [ih later, List.find?_append]
      unfold addEntry at step
      cases assigned : entry.account with
      | none =>
          simp only [assigned] at step
          cases step
          rw [← List.find?_append, List.filterMap_cons_none (by simp [NewEntry.place?, assigned])]
      | some account =>
          simp only [assigned] at step
          rcases Except.bind_eq_ok_iff.mp step with ⟨delta, -, added⟩
          rw [find?_place_of_addChange added, ← List.find?_append, List.append_assoc,
            List.filterMap_cons_some (by simp [NewEntry.place?, assigned]; rfl)]
          rfl

/-- Each account has one sum only. -/
theorem nodup_place_of_foldlM (folded : entries.foldlM addEntry [] = .ok summed) :
    (summed.map Change.place).Nodup := by
  rw [List.nodup_iff_count_le_one]
  rintro ⟨owner, account⟩
  have counted : (summed.map Change.place).count (owner, account)
      = (sumsFor owner account summed).length := by
    rw [sumsFor, List.length_map, List.count, List.countP_map, List.countP_eq_length_filter]
    congr 2
    funext change
    rw [Bool.eq_iff_iff]
    simp [Change.place]
  rw [counted]
  obtain ⟨sum, sum_eq⟩ := exists_foldlM_addEntry_iff.mp ⟨summed, folded⟩ owner account
  rw [sumsFor_eq_of_foldlM folded sum_eq]
  split_ifs <;> simp

/-! ## Sums of moderate amounts -/

/-- Entries of a bounded size add up, however many they are. -/
theorem exists_addUp_isAtMost
    (each : ∀ entry ∈ entries, ∃ delta, entry.balanceDelta = .ok delta ∧ delta.IsAtMost 26)
    (begun : start.IsAtMost 54) : ∃ sum, addUp start entries = .ok sum ∧ sum.IsAtMost 54 := by
  induction entries generalizing start with
  | nil => exact ⟨start, rfl, begun⟩
  | cons entry rest ih =>
      rw [List.forall_mem_cons] at each
      rcases each.1 with ⟨delta, delta_eq, small⟩
      rcases begun.exists_add_eq small (by decide) (by decide) with ⟨next, next_eq, next_le⟩
      rcases ih each.2 next_le with ⟨sum, sum_eq, sum_le⟩
      exact ⟨sum, addUp_cons_eq_ok_iff.mpr ⟨delta, next, delta_eq, next_eq, sum_eq⟩, sum_le⟩

theorem exists_sumFor_isAtMost (owner : String) (account : Int)
    (each : ∀ entry ∈ entries, ∃ delta, entry.balanceDelta = .ok delta ∧ delta.IsAtMost 26) :
    ∃ sum, sumFor owner account entries = .ok sum ∧ sum.IsAtMost 54 :=
  exists_addUp_isAtMost (fun entry member => each entry (mem_of_mem_entriesFor member))
    (isAtMost_zero 54)

/-- What an entry of a bounded size adds is no larger. -/
theorem exists_balanceDelta_isAtMost (small : entry.amount.IsAtMost 26) :
    ∃ delta, entry.balanceDelta = .ok delta ∧ delta.IsAtMost 26 := by
  unfold NewEntry.balanceDelta
  split_ifs
  · exact ⟨_, rfl, isAtMost_zero 26⟩
  · exact ⟨_, rfl, small⟩
  · exact small.exists_neg_eq (by decide) (by decide)

end Entry

end Cashbook
