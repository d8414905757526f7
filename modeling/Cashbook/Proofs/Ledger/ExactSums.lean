import Cashbook.Proofs.Decimal.Sums
import Cashbook.Proofs.Ledger.Grouping

/-!
# Exact sums

Amounts that are whole numbers of units of one decimal place, and that have few digits together,
add up without rounding, whatever their signs and their order.
-/

namespace Cashbook

open Decimal

/-! ## Units -/

namespace Decimal

variable {number : Decimal} {place : Int}

/-- The units of a decimal place in the size of a number whose digits do not go further down. -/
def unitsAt? (place : Int) : Decimal → Option Nat
  | finite _ coefficient exponent =>
      if place ≤ exponent then some (coefficient * 10 ^ (exponent - place).toNat) else none
  | _ => none

theorem isUnits_of_unitsAt? {count : Nat} (counted : unitsAt? place number = some count) :
    (∃ units, number.IsUnits place units) ∧ |number.value| = count * 10 ^ place := by
  cases number with
  | finite negative coefficient exponent =>
      simp only [unitsAt?] at counted
      split_ifs at counted with order
      obtain rfl := Option.some.inj counted
      refine ⟨(isUnits_finite_iff.mpr rfl).exists_of_le order, ?_⟩
      rw [abs_value_finite]
      push_cast
      rw [mul_assoc, ten_pow_mul_of_le order]
  | infinite negative => cases counted
  | notNumber negative signaling payload => cases counted

end Decimal

namespace Entry

variable {owner : String} {account place : Int} {start sum : Decimal} {entry : NewEntry}
  {entries : List NewEntry}

/-! ## Batches -/

/-- The value of what an entry adds to its account. -/
def gainedValue (entry : NewEntry) : ℚ :=
  if entry.account.isNone ∨ entry.settlement ≠ .confirmed then 0
  else if entry.kind = .income then entry.amount.value
  else -entry.amount.value

theorem abs_gainedValue_le (entry : NewEntry) : |gainedValue entry| ≤ |entry.amount.value| := by
  unfold gainedValue
  split_ifs
  · simp
  · exact le_rfl
  · exact (abs_neg _).le

/-- The sum of the sizes of all amounts. -/
def turnover (entries : List NewEntry) : ℚ :=
  (entries.map fun entry => |entry.amount.value|).sum

theorem turnover_cons (entry : NewEntry) (rest : List NewEntry) :
    turnover (entry :: rest) = |entry.amount.value| + turnover rest :=
  List.sum_cons

theorem turnover_nonneg (entries : List NewEntry) : 0 ≤ turnover entries :=
  List.sum_nonneg (List.forall_mem_map.mpr fun entry _ => abs_nonneg entry.amount.value)

theorem turnover_entriesFor_le (owner : String) (account : Int) (entries : List NewEntry) :
    turnover (entriesFor owner account entries) ≤ turnover entries := by
  induction entries with
  | nil => exact le_rfl
  | cons entry rest ih =>
      have size := abs_nonneg entry.amount.value
      rw [turnover_cons]
      by_cases here : entry.owner = owner ∧ entry.account = some account
      · rw [entriesFor_cons_of_for entry rest here, turnover_cons]
        linarith
      · rw [entriesFor_cons_of_not_for entry rest here]
        linarith

/-- Are all amounts whole numbers of units of one decimal place, with at most 28 digits of them
together? -/
structure IsShort (entries : List NewEntry) (place : Int) : Prop where
  units : ∀ entry ∈ entries, ∃ units, entry.amount.IsUnits place units
  short : turnover entries < 10 ^ (place + working.digits)

/-- The units of a decimal place in all amounts together, if no digits go further down. -/
def unitsAt? (place : Int) : List NewEntry → Option Nat
  | [] => some 0
  | entry :: rest => do return (← entry.amount.unitsAt? place) + (← unitsAt? place rest)

theorem turnover_of_unitsAt? {count : Nat} (counted : unitsAt? place entries = some count) :
    (∀ entry ∈ entries, ∃ units, entry.amount.IsUnits place units)
      ∧ turnover entries = count * 10 ^ place := by
  induction entries generalizing count with
  | nil =>
      cases counted
      exact ⟨List.forall_mem_nil _, by simp [turnover]⟩
  | cons entry rest ih =>
      rcases Option.bind_eq_some_iff.mp counted with ⟨own, own_eq, later⟩
      rcases Option.bind_eq_some_iff.mp later with ⟨others, others_eq, ⟨⟩⟩
      rcases isUnits_of_unitsAt? own_eq with ⟨own_units, size⟩
      rcases ih others_eq with ⟨units, total⟩
      refine ⟨List.forall_mem_cons.mpr ⟨own_units, units⟩, ?_⟩
      rw [turnover_cons, size, total]
      push_cast
      ring

/-- Whether few digits are needed can be computed. -/
theorem isShort_of_unitsAt?
    (few : ∃ count ∈ unitsAt? place entries, count < 10 ^ working.digits) :
    IsShort entries place := by
  rcases few with ⟨count, counted, few⟩
  rcases turnover_of_unitsAt? counted with ⟨units, total⟩
  have few' : (count : ℚ) < 10 ^ (working.digits : Int) := by exact_mod_cast few
  refine ⟨units, ?_⟩
  rw [total, add_comm, zpow_add₀ (by norm_num)]
  exact mul_lt_mul_of_pos_right few' (by positivity)

/-- Is every sum of some of these entries exact: do they have few digits together, and is neither
their last place too far down nor their first one too far up? -/
structure AddsUp (entries : List NewEntry) (place : Int) : Prop extends IsShort entries place where
  low : working.lastExponent ≤ place
  range : turnover entries < 10 ^ (working.maxExponent + 1)

theorem IsShort.addsUp (exact : IsShort entries place) (low : working.lastExponent ≤ place)
    (high : place + working.digits ≤ working.maxExponent + 1) : AddsUp entries place :=
  ⟨exact, low, exact.short.trans_le (zpow_le_zpow_right₀ (by norm_num) high)⟩

/-- A place can be chosen from which 28 digits do not go beyond the largest place. -/
theorem AddsUp.exists_high (exact : AddsUp entries place) :
    ∃ place, AddsUp entries place ∧ place + working.digits ≤ working.maxExponent + 1 := by
  by_cases high : place + working.digits ≤ working.maxExponent + 1
  · exact ⟨place, exact, high⟩
  · -- No digit goes beyond the largest place, so those that reach it can be counted from below.
    refine ⟨working.maxExponent + 1 - working.digits, ⟨⟨fun entry member => ?_, ?_⟩, by decide,
      exact.range⟩, by omega⟩
    · rcases exact.units entry member with ⟨units, counted⟩
      exact counted.exists_of_le (by omega)
    · rw [sub_add_cancel]
      exact exact.range

theorem exists_balanceDelta_eq {units : Int} (counted : entry.amount.IsUnits place units)
    (few : |entry.amount.value| < 10 ^ (place + working.digits))
    (low : working.lastExponent ≤ place)
    (high : place + working.digits ≤ working.maxExponent + 1) :
    ∃ delta gained, entry.balanceDelta = .ok delta ∧ delta.IsUnits place gained
      ∧ delta.value = gainedValue entry := by
  unfold NewEntry.balanceDelta gainedValue
  split_ifs
  · exact ⟨_, 0, rfl, isUnits_zero place, by simp [zero, value, signed]⟩
  · exact ⟨_, units, rfl, counted, rfl⟩
  · rcases counted.exists_neg_eq (counted.natAbs_lt few) low high with ⟨turned, turned_eq, opposite⟩
    refine ⟨turned, -units, turned_eq, opposite, ?_⟩
    rw [opposite.2, counted.2]
    push_cast
    ring

/-- Entries that are exact together add up to the exact sum. -/
theorem exists_addUp_eq (units : ∀ entry ∈ entries, ∃ units, entry.amount.IsUnits place units)
    (begun : ∃ units, start.IsUnits place units)
    (few : |start.value| + turnover entries < 10 ^ (place + working.digits))
    (low : working.lastExponent ≤ place)
    (high : place + working.digits ≤ working.maxExponent + 1) :
    ∃ sum, addUp start entries = .ok sum ∧ sum.isFinite = true
      ∧ sum.value = start.value + (entries.map gainedValue).sum := by
  -- The bound holds for the sum so far together with all that is left, so every step stays exact.
  induction entries generalizing start with
  | nil =>
      rcases begun with ⟨base, counted⟩
      exact ⟨start, rfl, counted.1, by simp⟩
  | cons entry rest ih =>
      rw [List.forall_mem_cons] at units
      rw [turnover_cons] at few
      rcases begun with ⟨base, counted⟩
      rcases units.1 with ⟨own, own_counted⟩
      have own_size := abs_nonneg entry.amount.value
      have start_size := abs_nonneg start.value
      have rest_size := turnover_nonneg rest
      obtain ⟨delta, gained, delta_eq, delta_counted, delta_value⟩ :=
        exists_balanceDelta_eq own_counted (by linarith) low high
      have gained_le := abs_gainedValue_le entry
      have together : |start.value + delta.value| ≤ |start.value| + |entry.amount.value| := by
        rw [delta_value]
        exact (abs_add_le _ _).trans (add_le_add le_rfl gained_le)
      have sum_value : ((base + gained : Int) : ℚ) * 10 ^ place = start.value + delta.value := by
        rw [counted.2, delta_counted.2]
        push_cast
        ring
      have sum_small : |((base + gained : Int) : ℚ) * 10 ^ place|
          < 10 ^ (place + working.digits) := by
        rw [sum_value]
        linarith
      rcases counted.exists_add_eq delta_counted (counted.natAbs_lt (by linarith))
        (delta_counted.natAbs_lt (by rw [delta_value]; linarith))
        (natAbs_lt_of_abs_mul_lt sum_small) low high with ⟨next, next_eq, next_counted⟩
      have next_value := next_counted.2.trans sum_value
      rcases ih units.2 ⟨_, next_counted⟩ (by rw [next_value]; linarith) with
        ⟨sum, sum_eq, finite, total_eq⟩
      refine ⟨sum, addUp_cons_eq_ok_iff.mpr ⟨delta, next, delta_eq, next_eq, sum_eq⟩, finite, ?_⟩
      rw [total_eq, next_value, delta_value, List.map_cons, List.sum_cons]
      ring

end Entry

end Cashbook
