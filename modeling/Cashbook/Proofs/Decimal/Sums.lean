import Cashbook.Proofs.Decimal.Value
import Mathlib.Algebra.Order.BigOperators.Group.List

/-!
# Sums of decimal numbers

Numbers that are whole multiples of one decimal place and have few digits together add up without
rounding, however many they are and in whatever order.
-/

namespace Cashbook.Decimal

variable {number start : Decimal} {numbers : List Decimal} {place finer units otherUnits : Int}

/-- Units of a place are units of every later place. -/
theorem IsUnits.exists_of_le (counted : number.IsUnits place units) (le : finer ≤ place) :
    ∃ others, number.IsUnits finer others := by
  refine ⟨units * 10 ^ (place - finer).toNat, counted.1, ?_⟩
  rw [counted.2]
  push_cast
  rw [mul_assoc, ten_pow_mul_of_le le]

theorem natAbs_lt_of_abs_mul_lt
    (small : |(units : ℚ) * 10 ^ place| < 10 ^ (place + working.digits)) :
    units.natAbs < 10 ^ working.digits := by
  rw [abs_mul, abs_of_pos (by positivity : (0 : ℚ) < 10 ^ place), add_comm,
    zpow_add₀ (by norm_num), ← Int.cast_abs, Int.abs_eq_natAbs] at small
  exact_mod_cast lt_of_mul_lt_mul_right small (by positivity)

theorem IsUnits.natAbs_lt (counted : number.IsUnits place units)
    (small : |number.value| < 10 ^ (place + working.digits)) :
    units.natAbs < 10 ^ working.digits := by
  rw [counted.2] at small
  exact natAbs_lt_of_abs_mul_lt small

/-- Two numbers of units whose sizes are small together have an exact sum. -/
theorem IsUnits.exists_add_value_eq {other : Decimal} (counted : number.IsUnits place units)
    (otherCounted : other.IsUnits place otherUnits)
    (few : |number.value| + |other.value| < 10 ^ (place + working.digits))
    (low : working.lastExponent ≤ place)
    (high : place + working.digits ≤ working.maxExponent + 1) :
    ∃ sum, number.add other = .ok sum ∧ sum.IsUnits place (units + otherUnits)
      ∧ sum.value = number.value + other.value := by
  have number_size := abs_nonneg number.value
  have other_size := abs_nonneg other.value
  have value_eq : ((units + otherUnits : Int) : ℚ) * 10 ^ place = number.value + other.value := by
    rw [counted.2, otherCounted.2]
    push_cast
    ring
  have together : |((units + otherUnits : Int) : ℚ) * 10 ^ place|
      < 10 ^ (place + working.digits) := by
    rw [value_eq]
    exact (abs_add_le _ _).trans_lt few
  rcases counted.exists_add_eq otherCounted (counted.natAbs_lt (by linarith))
    (otherCounted.natAbs_lt (by linarith)) (natAbs_lt_of_abs_mul_lt together) low high with
    ⟨sum, sum_eq, sum_counted⟩
  exact ⟨sum, sum_eq, sum_counted, sum_counted.2.trans value_eq⟩

/-! ## Lists -/

/-- The sizes of numbers together. -/
def totalSize (numbers : List Decimal) : ℚ :=
  (numbers.map fun number => |number.value|).sum

theorem totalSize_cons (number : Decimal) (rest : List Decimal) :
    totalSize (number :: rest) = |number.value| + totalSize rest :=
  List.sum_cons

theorem totalSize_nonneg (numbers : List Decimal) : 0 ≤ totalSize numbers :=
  List.sum_nonneg (List.forall_mem_map.mpr fun number _ => abs_nonneg number.value)

/-- No number of a list is larger than all together. -/
theorem abs_value_le_totalSize (member : number ∈ numbers) :
    |number.value| ≤ totalSize numbers :=
  List.single_le_sum (List.forall_mem_map.mpr fun other _ => abs_nonneg other.value) _
    (List.mem_map_of_mem member)

theorem exists_foldlM_add_eq (counted : ∀ number ∈ numbers, ∃ units, number.IsUnits place units)
    (begun : ∃ units, start.IsUnits place units)
    (few : |start.value| + totalSize numbers < 10 ^ (place + working.digits))
    (low : working.lastExponent ≤ place)
    (high : place + working.digits ≤ working.maxExponent + 1) :
    ∃ total, numbers.foldlM add start = .ok total ∧ (∃ units, total.IsUnits place units)
      ∧ total.value = start.value + (numbers.map value).sum := by
  -- The bound holds for the sum so far together with all that is left, so every step stays exact.
  induction numbers generalizing start with
  | nil => exact ⟨start, rfl, begun, by simp⟩
  | cons number rest ih =>
      rw [List.forall_mem_cons] at counted
      rw [totalSize_cons] at few
      rcases begun with ⟨base, start_counted⟩
      rcases counted.1 with ⟨own, own_counted⟩
      have rest_size := totalSize_nonneg rest
      rcases start_counted.exists_add_value_eq own_counted (by linarith) low high with
        ⟨next, next_eq, next_counted, next_value⟩
      have next_size : |next.value| ≤ |start.value| + |number.value| := by
        rw [next_value]
        exact abs_add_le _ _
      rcases ih counted.2 ⟨_, next_counted⟩ (by linarith) with
        ⟨total, total_eq, total_counted, total_value⟩
      refine ⟨total, ?_, total_counted, ?_⟩
      · rw [List.foldlM_cons, next_eq]
        exact total_eq
      · rw [total_value, next_value, List.map_cons, List.sum_cons]
        ring

/-- A sum of numbers of units is exact if they are small together. -/
theorem exists_sum_eq (counted : ∀ number ∈ numbers, ∃ units, number.IsUnits place units)
    (few : totalSize numbers < 10 ^ (place + working.digits))
    (low : working.lastExponent ≤ place)
    (high : place + working.digits ≤ working.maxExponent + 1) :
    ∃ total, sum numbers = .ok total ∧ (∃ units, total.IsUnits place units)
      ∧ total.value = (numbers.map value).sum := by
  have nothing : zero.value = 0 := by
    simp [zero, value, signed]
  have begun : ∃ units, zero.IsUnits place units := ⟨0, isUnits_zero place⟩
  rcases exists_foldlM_add_eq counted begun (by rwa [nothing, abs_zero, zero_add]) low high with
    ⟨total, total_eq, total_counted, value_eq⟩
  exact ⟨total, total_eq, total_counted, by rw [value_eq, nothing, zero_add]⟩

/-- The size of a sum is at most the sizes together. -/
theorem abs_sum_value_le (numbers : List Decimal) :
    |(numbers.map value).sum| ≤ totalSize numbers := by
  induction numbers with
  | nil => simp [totalSize]
  | cons number rest ih =>
      rw [List.map_cons, List.sum_cons, totalSize_cons]
      exact (abs_add_le _ _).trans (add_le_add le_rfl ih)

/-! ## Differences -/

theorem IsUnits.turned (counted : number.IsUnits place units) :
    number.turned.IsUnits place (-units) := by
  rcases counted.exists_eq with ⟨negative, coefficient, exponent, rfl, equal⟩
  refine isUnits_finite_iff.mpr ?_
  push_cast
  rw [neg_mul, ← equal, signed_mul, signed_mul]
  cases negative <;> simp

/-- A difference of numbers of units is exact if they are small together. -/
theorem IsUnits.exists_sub_eq {other : Decimal} (counted : number.IsUnits place units)
    (otherCounted : other.IsUnits place otherUnits)
    (few : |number.value| + |other.value| < 10 ^ (place + working.digits))
    (low : working.lastExponent ≤ place)
    (high : place + working.digits ≤ working.maxExponent + 1) :
    ∃ difference, number.sub other = .ok difference
      ∧ difference.IsUnits place (units - otherUnits)
      ∧ difference.value = number.value - other.value := by
  have turned_value : other.turned.value = -other.value := by
    rw [otherCounted.turned.2, otherCounted.2]
    push_cast
    ring
  rcases counted.exists_add_value_eq otherCounted.turned (by rwa [turned_value, abs_neg]) low
    high with ⟨difference, difference_eq, difference_counted, difference_value⟩
  refine ⟨difference, difference_eq, ?_, ?_⟩
  · rwa [sub_eq_add_neg]
  · rw [difference_value, turned_value, sub_eq_add_neg]

end Cashbook.Decimal
