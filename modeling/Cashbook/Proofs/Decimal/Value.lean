import Cashbook.Decimal.Arithmetic
import Cashbook.Proofs.Rounding
import Mathlib.Algebra.Order.Field.Power
import Mathlib.Order.Compare

/-!
# The value of a decimal number

A decimal number keeps a form, and this module tells what does not depend on it: comparison is the
order of values, and a sum whose value has few enough digits is exact.
-/

namespace Cashbook

variable {number coefficient otherCoefficient units : Nat} {exponent otherExponent place : Int}

/-! ## Digits -/

theorem lt_ten_pow_digitCount (number : Nat) : number < 10 ^ digitCount number :=
  (Nat.length_toDigits_le_iff (by norm_num) (digitCount_pos number)).mp le_rfl

theorem ten_pow_le_of_lt_digitCount {digits : Nat} (nonzero : number ≠ 0)
    (few : digits < digitCount number) : 10 ^ digits ≤ number := by
  by_contra small
  by_cases none : digits = 0
  · subst none
    omega
  · have counted : digitCount number ≤ digits :=
      (Nat.length_toDigits_le_iff (by norm_num) (by omega)).mpr (by omega)
    omega

/-- Appended zeros make up for a smaller exponent. -/
theorem ten_pow_mul_min (first second : Int) :
    (10 : ℚ) ^ (first - second).toNat * 10 ^ min first second = 10 ^ first := by
  rw [← zpow_natCast, ← zpow_add₀ (by norm_num)]
  congr 1
  omega

theorem ten_pow_mul_of_le {low high : Int} (order : low ≤ high) :
    (10 : ℚ) ^ (high - low).toNat * 10 ^ low = 10 ^ high := by
  have aligned := ten_pow_mul_min high low
  rwa [min_eq_right order] at aligned

namespace Decimal

theorem leadingExponent_lt_iff (nonzero : coefficient ≠ 0) :
    leadingExponent coefficient exponent < place
      ↔ (coefficient : ℚ) * 10 ^ exponent < 10 ^ place := by
  have few := lt_ten_pow_digitCount coefficient
  have many : 10 ^ (digitCount coefficient - 1) ≤ coefficient :=
    ten_pow_le_of_lt_digitCount nonzero (by have := digitCount_pos coefficient; omega)
  have few' : (coefficient : ℚ) < 10 ^ (digitCount coefficient : Int) := by exact_mod_cast few
  have many' : (10 : ℚ) ^ ((digitCount coefficient : Int) - 1) ≤ coefficient := by
    have cast : ((digitCount coefficient : Int) - 1) = (digitCount coefficient - 1 : Nat) := by
      have := digitCount_pos coefficient
      omega
    rw [cast]
    exact_mod_cast many
  unfold leadingExponent
  constructor
  · intro below
    calc
      (coefficient : ℚ) * 10 ^ exponent
        < 10 ^ (digitCount coefficient : Int) * 10 ^ exponent := by gcongr
      _ = 10 ^ ((digitCount coefficient : Int) + exponent) := (zpow_add₀ (by norm_num) ..).symm
      _ ≤ 10 ^ place := zpow_le_zpow_right₀ (by norm_num) (by omega)
  · intro below
    have power : (10 : ℚ) ^ ((digitCount coefficient : Int) - 1 + exponent) < 10 ^ place := by
      calc
        (10 : ℚ) ^ ((digitCount coefficient : Int) - 1 + exponent)
          = 10 ^ ((digitCount coefficient : Int) - 1) * 10 ^ exponent :=
            zpow_add₀ (by norm_num) ..
        _ ≤ coefficient * 10 ^ exponent := by gcongr
        _ < 10 ^ place := below
    have := (zpow_lt_zpow_iff_right₀ (by norm_num : (1 : ℚ) < 10)).mp power
    omega

theorem le_leadingExponent_iff (nonzero : coefficient ≠ 0) :
    place ≤ leadingExponent coefficient exponent
      ↔ (10 : ℚ) ^ place ≤ coefficient * 10 ^ exponent := by
  rw [← not_lt, leadingExponent_lt_iff nonzero, not_lt]

/-- The place of the first digit depends on the value only. -/
theorem leadingExponent_eq_of_eq (nonzero : coefficient ≠ 0) (otherNonzero : otherCoefficient ≠ 0)
    (equal : (coefficient : ℚ) * 10 ^ exponent = otherCoefficient * 10 ^ otherExponent) :
    leadingExponent coefficient exponent = leadingExponent otherCoefficient otherExponent := by
  apply le_antisymm
  · rw [le_leadingExponent_iff otherNonzero, ← equal, ← le_leadingExponent_iff nonzero]
  · rw [le_leadingExponent_iff nonzero, equal, ← le_leadingExponent_iff otherNonzero]

/-- What is a number of units of a place, and not zero, has its first digit there or before. -/
theorem le_leadingExponent_of_eq {units : Nat} {place : Int} (nonzero : coefficient ≠ 0)
    (equal : (coefficient : ℚ) * 10 ^ exponent = units * 10 ^ place) :
    place ≤ leadingExponent coefficient exponent := by
  have some_units : units ≠ 0 := by
    rintro rfl
    apply nonzero
    have nothing : (coefficient : ℚ) * 10 ^ exponent = 0 := by simpa using equal
    exact_mod_cast (mul_eq_zero.mp nothing).resolve_right (by positivity)
  have several : (1 : ℚ) ≤ units := by exact_mod_cast Nat.one_le_iff_ne_zero.mpr some_units
  rw [le_leadingExponent_iff nonzero, equal]
  nlinarith [zpow_pos (by norm_num : (0 : ℚ) < 10) place]

/-- Digits that are all zero are dropped without rounding. -/
theorem dropDigits_mul {digits : Nat} (units : Nat) :
    dropDigits (units * 10 ^ digits) digits = units := by
  unfold dropDigits
  split_ifs with few
  · have small := (lt_ten_pow_digitCount (units * 10 ^ digits)).trans
      (Nat.pow_lt_pow_right (by norm_num) few)
    by_contra nonzero
    have : 1 * 10 ^ digits ≤ units * 10 ^ digits :=
      Nat.mul_le_mul_right _ (Nat.one_le_iff_ne_zero.mpr (Ne.symm nonzero))
    omega
  · exact divHalfEven_mul_self units (by simp)

/-! ## Values -/

/-- The value of a number; what is no finite number counts as zero. -/
def value : Decimal → ℚ
  | finite negative coefficient exponent => signed negative coefficient * 10 ^ exponent
  | _ => 0

/-- Is the number so many units of a decimal place, whatever its form? -/
def IsUnits (number : Decimal) (place units : Int) : Prop :=
  number.isFinite = true ∧ number.value = units * 10 ^ place

instance (number : Decimal) (place units : Int) : Decidable (number.IsUnits place units) :=
  inferInstanceAs (Decidable (_ ∧ _))

/-- Is the number so many cents? -/
abbrev IsCents (number : Decimal) (cents : Int) : Prop :=
  number.IsUnits (-2) cents

theorem isUnits_zero (place : Int) : zero.IsUnits place 0 := by
  simp [IsUnits, zero, isFinite, value, signed]

theorem isUnits_finite_iff {negative : Bool} {units : Int} :
    (finite negative coefficient exponent).IsUnits place units
      ↔ (signed negative coefficient : ℚ) * 10 ^ exponent = units * 10 ^ place := by
  simp [IsUnits, isFinite, value]

theorem IsUnits.exists_eq {number : Decimal} {units : Int} (counted : number.IsUnits place units) :
    ∃ negative coefficient exponent, number = finite negative coefficient exponent
      ∧ (signed negative coefficient : ℚ) * 10 ^ exponent = units * 10 ^ place := by
  cases number with
  | finite negative coefficient exponent =>
      exact ⟨_, _, _, rfl, isUnits_finite_iff.mp counted⟩
  | infinite negative => simp [IsUnits, isFinite] at counted
  | notNumber negative signaling payload => simp [IsUnits, isFinite] at counted

/-- A number is one number of units only. -/
theorem IsUnits.unique {number : Decimal} {first second : Int}
    (counted : number.IsUnits place first) (again : number.IsUnits place second) :
    first = second := by
  have equal := counted.2.symm.trans again.2
  exact_mod_cast mul_right_cancel₀ (by positivity) equal

theorem natAbs_signed (negative : Bool) (coefficient : Nat) :
    (signed negative coefficient).natAbs = coefficient := by
  cases negative <;> simp [signed]

theorem signed_natAbs (number : Int) : signed (decide (number < 0)) number.natAbs = number := by
  simp only [signed, decide_eq_true_eq]
  split_ifs <;> omega

theorem natAbs_mul_eq {negative : Bool} {units : Int}
    (equal : (signed negative coefficient : ℚ) * 10 ^ exponent = units * 10 ^ place) :
    (coefficient : ℚ) * 10 ^ exponent = units.natAbs * 10 ^ place := by
  have size : (coefficient : ℚ) = |(signed negative coefficient : ℚ)| := by
    cases negative <;> simp [signed]
  rw [size, Nat.cast_natAbs, Int.cast_abs, ← abs_of_pos (by positivity : (0 : ℚ) < 10 ^ exponent),
    ← abs_mul, equal, abs_mul, abs_of_pos (by positivity : (0 : ℚ) < 10 ^ place)]

theorem signed_mul (negative : Bool) (coefficient : Nat) (scale : ℚ) :
    (signed negative coefficient : ℚ) * scale
      = if negative then -(coefficient * scale) else coefficient * scale := by
  cases negative <;> simp [signed]

theorem abs_value_finite (negative : Bool) (coefficient : Nat) (exponent : Int) :
    |(finite negative coefficient exponent).value| = coefficient * 10 ^ exponent := by
  rw [value, abs_mul, abs_of_pos (by positivity : (0 : ℚ) < 10 ^ exponent), ← Int.cast_abs,
    Int.abs_eq_natAbs, natAbs_signed, Int.cast_natCast]

/-- A number of units has so many of them as its sign and its size tell. -/
theorem IsUnits.exists_size_eq {number : Decimal} {units : Int}
    (counted : number.IsUnits place units) :
    ∃ negative coefficient exponent, number = finite negative coefficient exponent
      ∧ (coefficient : ℚ) * 10 ^ exponent = units.natAbs * 10 ^ place
      ∧ signed negative units.natAbs = units := by
  rcases counted.exists_eq with ⟨negative, coefficient, exponent, rfl, equal⟩
  have size := natAbs_mul_eq equal
  have same : (signed negative units.natAbs : ℚ) * 10 ^ place = units * 10 ^ place := by
    rw [← equal, signed_mul, signed_mul, size]
  refine ⟨_, _, _, rfl, size, ?_⟩
  exact_mod_cast mul_right_cancel₀ (by positivity) same

/-! ## Order -/

theorem compareSizes_eq_compare (coefficient : Nat) (exponent : Int) (otherCoefficient : Nat)
    (otherExponent : Int) :
    compareSizes coefficient exponent otherCoefficient otherExponent
      = compare ((coefficient : ℚ) * 10 ^ exponent) (otherCoefficient * 10 ^ otherExponent) := by
  unfold compareSizes
  split_ifs with zero otherZero otherZero
  · simp [zero, otherZero]
  · have : (0 : ℚ) < otherCoefficient := by exact_mod_cast Nat.pos_of_ne_zero otherZero
    rw [eq_comm, compare_lt_iff_lt, zero]
    simpa using by positivity
  · have : (0 : ℚ) < coefficient := by exact_mod_cast Nat.pos_of_ne_zero zero
    rw [eq_comm, compare_gt_iff_gt, otherZero]
    simpa using by positivity
  · have apart : ∀ {first second : Nat} {low high : Int}, first ≠ 0 → second ≠ 0 →
        leadingExponent first low < leadingExponent second high →
        (first : ℚ) * 10 ^ low < second * 10 ^ high := fun first second below =>
      ((leadingExponent_lt_iff first).mp below).trans_le ((le_leadingExponent_iff second).mp le_rfl)
    rcases order : compare (leadingExponent coefficient exponent)
        (leadingExponent otherCoefficient otherExponent) with _ | _ | _
    · rw [eq_comm, compare_lt_iff_lt]
      exact apart zero otherZero (compare_lt_iff_lt.mp order)
    · -- The first digits stand at one place, so both coefficients are written to a common exponent.
      have scaled : StrictMono fun number : Nat => (number : ℚ) * 10 ^ min exponent otherExponent :=
        fun first second below =>
          mul_lt_mul_of_pos_right (by exact_mod_cast below) (by positivity)
      have first : (appendZeros coefficient (exponent - otherExponent).toNat : ℚ)
          * 10 ^ min exponent otherExponent = coefficient * 10 ^ exponent := by
        rw [appendZeros_eq]
        push_cast [Nat.pow_eq]
        rw [mul_assoc, ten_pow_mul_min]
      have second : (appendZeros otherCoefficient (otherExponent - exponent).toNat : ℚ)
          * 10 ^ min exponent otherExponent = otherCoefficient * 10 ^ otherExponent := by
        rw [appendZeros_eq, min_comm]
        push_cast [Nat.pow_eq]
        rw [mul_assoc, ten_pow_mul_min]
      rw [← cmp_eq_compare, ← cmp_eq_compare, ← scaled.cmp_map_eq, first, second]
    · rw [eq_comm, compare_gt_iff_gt]
      exact apart otherZero zero (compare_gt_iff_gt.mp order)

/-- Finite numbers are ordered by their values. -/
theorem order?_of_isFinite {first second : Decimal} (finite : first.isFinite = true)
    (otherFinite : second.isFinite = true) :
    first.order? second = some (compare first.value second.value) := by
  obtain ⟨negative, coefficient, exponent⟩ | _ | _ := first <;> try simp [isFinite] at finite
  obtain ⟨otherNegative, otherCoefficient, otherExponent⟩ | _ | _ := second <;>
    try simp [isFinite] at otherFinite
  simp only [order?, value, signed_mul]
  have positive : ∀ {digits : Nat} (low : Int), digits ≠ 0 → 0 < (digits : ℚ) * 10 ^ low :=
    fun low nonzero => mul_pos (by exact_mod_cast Nat.pos_of_ne_zero nonzero) (by positivity)
  have below {first second : ℚ} (less : first < second) : some .lt = some (compare first second) :=
    congrArg some (compare_lt_iff_lt.mpr less).symm
  have above {first second : ℚ} (less : second < first) : some .gt = some (compare first second) :=
    congrArg some (compare_gt_iff_gt.mpr less).symm
  by_cases zero : coefficient = 0 <;> by_cases otherZero : otherCoefficient = 0
  · simp [zero, otherZero]
  · have size := positive otherExponent otherZero
    cases otherNegative
    · simpa [zero, otherZero] using below size
    · simpa [zero, otherZero] using above (neg_neg_of_pos size)
  · have size := positive exponent zero
    cases negative
    · simpa [zero, otherZero] using above size
    · simpa [zero, otherZero] using below (neg_neg_of_pos size)
  · have size := positive exponent zero
    have otherSize := positive otherExponent otherZero
    cases negative <;> cases otherNegative <;> simp [zero, otherZero, compareSizes_eq_compare]
    · exact Option.some.inj (above ((neg_neg_of_pos otherSize).trans size))
    · exact Option.some.inj (below ((neg_neg_of_pos size).trans otherSize))
    · have turned : StrictAnti fun number : ℚ => -number := fun _ _ => neg_lt_neg
      rw [← cmp_eq_compare, ← cmp_eq_compare]
      exact (turned.cmp_map_eq ..).symm

/-- A number is compared with zero by its value. -/
theorem isNonzero_of_isFinite {number : Decimal} (finite : number.isFinite = true) :
    number.isNonzero = decide (number.value ≠ 0) := by
  rw [isNonzero, order?_of_isFinite finite rfl, show value zero = 0 by simp [value, zero, signed]]
  by_cases nothing : number.value = 0
  · simp [nothing]
  · have differs : compare number.value 0 ≠ .eq := fun equal => nothing (compare_eq_iff_eq.mp equal)
    simp [nothing, differs]

theorem compareValues_of_isFinite {first second : Decimal} (finite : first.isFinite = true)
    (otherFinite : second.isFinite = true) :
    first.compareValues second = .ok (compare first.value second.value) := by
  simp [compareValues, order?_of_isFinite finite otherFinite]

theorem isNotPositive_of_isFinite {number : Decimal} (finite : number.isFinite = true) :
    number.isNotPositive = .ok (decide (number.value ≤ 0)) := by
  have nothing : value zero = 0 := by simp [value, zero, signed]
  simp only [isNotPositive, compareValues_of_isFinite finite (rfl : zero.isFinite = true), nothing]
  refine congrArg Except.ok ?_
  rcases lt_trichotomy number.value 0 with below | equal | above
  · simp [compare_lt_iff_lt.mpr below, below.le]
  · simp [equal]
  · simp [compare_gt_iff_gt.mpr above, above]

theorem isNotNegative_of_isFinite {number : Decimal} (finite : number.isFinite = true) :
    number.isNotNegative = .ok (decide (0 ≤ number.value)) := by
  have nothing : value zero = 0 := by simp [value, zero, signed]
  simp only [isNotNegative, compareValues_of_isFinite finite (rfl : zero.isFinite = true), nothing]
  refine congrArg Except.ok ?_
  rcases lt_trichotomy number.value 0 with below | equal | above
  · simp [compare_lt_iff_lt.mpr below, below]
  · simp [equal]
  · simp [compare_gt_iff_gt.mpr above, above.le]

/-! ## Exact results -/

/-- A result with few enough digits from one place on is kept as it is. -/
theorem exists_fit_eq (negative : Bool)
    (equal : (coefficient : ℚ) * 10 ^ exponent = units * 10 ^ place)
    (few : units < 10 ^ working.digits) (low : working.lastExponent ≤ place)
    (high : place + working.digits ≤ working.maxExponent + 1) :
    ∃ kept cut, fit negative coefficient exponent = .ok (finite negative kept cut)
      ∧ (kept : ℚ) * 10 ^ cut = units * 10 ^ place := by
  by_cases zero : coefficient = 0
  · subst zero
    exact ⟨0, _, if_pos rfl, by simpa using equal⟩
  · have leading : leadingExponent coefficient exponent < working.digits + place := by
      rw [leadingExponent_lt_iff zero, equal, zpow_add₀ (by norm_num)]
      gcongr
      exact_mod_cast few
    have range : ¬ working.maxExponent < leadingExponent coefficient exponent := by omega
    have cut_le : working.cutExponent coefficient exponent ≤ max exponent place := by
      unfold Precision.cutExponent
      have : working.digits = 28 := rfl
      omega
    have exponent_le : exponent ≤ working.cutExponent coefficient exponent := le_max_left ..
    have leading_le : leadingExponent coefficient exponent - (working.digits - 1)
        ≤ working.cutExponent coefficient exponent :=
      (le_max_left ..).trans (le_max_right ..)
    generalize cut_eq : working.cutExponent coefficient exponent = cut at *
    -- The digits below the cut are all zero.
    obtain ⟨kept, kept_eq⟩ : ∃ kept, coefficient = kept * 10 ^ (cut - exponent).toNat := by
      by_cases below : exponent < cut
      · refine ⟨units * 10 ^ (place - cut).toNat, ?_⟩
        have split : (units : ℚ) * 10 ^ place
            = units * 10 ^ (place - cut).toNat * 10 ^ (cut - exponent).toNat * 10 ^ exponent := by
          rw [← zpow_natCast, ← zpow_natCast, mul_assoc, mul_assoc, ← zpow_add₀ (by norm_num),
            ← zpow_add₀ (by norm_num)]
          congr 2
          omega
        have whole := mul_right_cancel₀ (by positivity) (equal.trans split)
        exact_mod_cast whole
      · exact ⟨coefficient, by rw [Int.toNat_of_nonpos (by omega)]; simp⟩
    have value_eq : (kept : ℚ) * 10 ^ cut = coefficient * 10 ^ exponent := by
      rw [kept_eq]
      push_cast
      rw [← zpow_natCast, mul_assoc, ← zpow_add₀ (by norm_num)]
      congr 2
      omega
    have kept_lt : kept < 10 ^ working.digits := by
      have size : (coefficient : ℚ) * 10 ^ exponent < 10 ^ (working.digits + cut) :=
        (leadingExponent_lt_iff zero).mp (by omega)
      rw [← value_eq, zpow_add₀ (by norm_num)] at size
      exact_mod_cast lt_of_mul_lt_mul_right size (by positivity)
    refine ⟨kept, cut, ?_, value_eq.trans equal⟩
    have dropped : dropDigits coefficient (cut - exponent).toNat = kept := by
      conv_lhs => rw [kept_eq]
      exact dropDigits_mul kept
    simp only [fit, zero, if_false, range, cut_eq, dropped, Nat.pow_eq, kept_lt, if_true]

/-- The number with the other sign is exact if it is short enough. -/
theorem IsUnits.exists_neg_eq {number : Decimal} {units : Int}
    (counted : number.IsUnits place units)
    (few : units.natAbs < 10 ^ working.digits) (low : working.lastExponent ≤ place)
    (high : place + working.digits ≤ working.maxExponent + 1) :
    ∃ turned, number.neg = .ok turned ∧ turned.IsUnits place (-units) := by
  rcases counted.exists_eq with ⟨negative, coefficient, exponent, rfl, equal⟩
  obtain ⟨kept, cut, fitted, value_eq⟩ :=
    exists_fit_eq (!negative && coefficient != 0) (natAbs_mul_eq equal) few low high
  refine ⟨_, fitted, ?_⟩
  rw [isUnits_finite_iff, signed_mul, value_eq, ← natAbs_mul_eq equal]
  push_cast
  rw [neg_mul, ← equal, signed_mul]
  by_cases zero : coefficient = 0
  · simp [zero]
  · cases negative <;> simp [zero]

/-- The smaller of two addends is replaced only where its value does not matter; a number of units
of the same place is never that small. -/
theorem reachOf_value {otherUnits : Nat}
    (equal : (coefficient : ℚ) * 10 ^ exponent = units * 10 ^ place)
    (few : units < 10 ^ working.digits)
    (otherEqual : (otherCoefficient : ℚ) * 10 ^ otherExponent = otherUnits * 10 ^ place)
    (order : otherExponent ≤ exponent) :
    (reachOf coefficient exponent otherCoefficient otherExponent).2 ≤ exponent
      ∧ ((reachOf coefficient exponent otherCoefficient otherExponent).1 : ℚ)
          * 10 ^ (reachOf coefficient exponent otherCoefficient otherExponent).2
        = otherCoefficient * 10 ^ otherExponent := by
  simp only [reachOf]
  split_ifs with replaced zero
  · exact ⟨by dsimp only; omega, by simp [zero]⟩
  · exfalso
    rcases replaced with ⟨nonzero, tiny⟩
    have leading : leadingExponent coefficient exponent < working.digits + place := by
      rw [leadingExponent_lt_iff nonzero, equal, zpow_add₀ (by norm_num)]
      gcongr
      exact_mod_cast few
    have visible := le_leadingExponent_of_eq zero otherEqual
    have digits : working.digits = 28 := rfl
    unfold leadingExponent at leading
    omega
  · exact ⟨order, rfl⟩

theorem exists_addAligned_eq {negative otherNegative : Bool} {first second : Int}
    (equal : (signed negative coefficient : ℚ) * 10 ^ exponent = first * 10 ^ place)
    (otherEqual : (signed otherNegative otherCoefficient : ℚ) * 10 ^ otherExponent
      = second * 10 ^ place)
    (order : otherExponent ≤ exponent) (few : first.natAbs < 10 ^ working.digits)
    (fewTogether : (first + second).natAbs < 10 ^ working.digits)
    (low : working.lastExponent ≤ place)
    (high : place + working.digits ≤ working.maxExponent + 1) :
    ∃ sum, addAligned negative coefficient exponent otherNegative otherCoefficient otherExponent
        = .ok sum
      ∧ sum.IsUnits place (first + second) := by
  obtain ⟨place_le, unit_value⟩ :=
    reachOf_value (natAbs_mul_eq equal) few (natAbs_mul_eq otherEqual) order
  unfold addAligned
  generalize reachOf coefficient exponent otherCoefficient otherExponent = reached at *
  rcases reached with ⟨unit, last⟩
  dsimp only at place_le unit_value ⊢
  have sum_value : ((signed negative (appendZeros coefficient (exponent - last).toNat)
      + signed otherNegative unit : Int) : ℚ) * 10 ^ last
      = (first + second : Int) * 10 ^ place := by
    push_cast
    rw [add_mul, add_mul, ← equal, ← otherEqual, signed_mul, signed_mul, signed_mul, signed_mul,
      unit_value, appendZeros_eq]
    push_cast [Nat.pow_eq]
    rw [mul_assoc, ten_pow_mul_of_le (by omega)]
  generalize signed negative (appendZeros coefficient (exponent - last).toNat)
    + signed otherNegative unit = sum at sum_value ⊢
  have size_value : (sum.natAbs : ℚ) * 10 ^ last = (first + second).natAbs * 10 ^ place := by
    rw [← signed_natAbs sum] at sum_value
    exact natAbs_mul_eq sum_value
  rcases exists_fit_eq _ size_value fewTogether low high with ⟨kept, cut, fitted, value_eq⟩
  refine ⟨_, fitted, ?_⟩
  rw [isUnits_finite_iff, signed_mul, value_eq, ← size_value, ← sum_value]
  by_cases zero : sum = 0
  · simp [zero]
  · rw [if_neg zero, ← signed_mul, signed_natAbs]

/-- A sum that is short enough is exact. -/
theorem IsUnits.exists_add_eq {first second : Decimal} {units otherUnits : Int}
    (counted : first.IsUnits place units) (otherCounted : second.IsUnits place otherUnits)
    (few : units.natAbs < 10 ^ working.digits) (otherFew : otherUnits.natAbs < 10 ^ working.digits)
    (fewTogether : (units + otherUnits).natAbs < 10 ^ working.digits)
    (low : working.lastExponent ≤ place)
    (high : place + working.digits ≤ working.maxExponent + 1) :
    ∃ sum, first.add second = .ok sum ∧ sum.IsUnits place (units + otherUnits) := by
  rcases counted.exists_eq with ⟨negative, coefficient, exponent, rfl, equal⟩
  obtain ⟨otherNegative, otherCoefficient, otherExponent, rfl, otherEqual⟩ :=
    otherCounted.exists_eq
  simp only [add]
  split_ifs with order
  · exact exists_addAligned_eq equal otherEqual order few fewTogether low high
  · rw [add_comm units]
    exact exists_addAligned_eq otherEqual equal (by omega) otherFew
      (by rwa [add_comm]) low high

/-! ## Cents -/

section Cents

variable {number other : Decimal} {cents otherCents : Int}

theorem isCents_iff :
    number.IsCents cents ↔ number.isFinite = true ∧ number.value = cents / 100 := by
  have hundredth : (10 : ℚ) ^ (-2 : Int) = 1 / 100 := by norm_num
  rw [IsCents, IsUnits, hundredth, mul_one_div]

theorem abs_value_ofCents (negative : Bool) (cents : Nat) :
    |(ofCents negative cents).value| = cents / 100 := by
  have hundredth : (10 : ℚ) ^ (-2 : Int) = 1 / 100 := by norm_num
  rw [ofCents, value, hundredth, mul_one_div, abs_div, abs_of_pos (by norm_num : (0 : ℚ) < 100)]
  cases negative <;> simp [signed]

/-- The other sign is exact for cents of at most 28 digits. -/
theorem exists_neg_eq_of_isCents (counted : number.IsCents cents) (few : cents.natAbs < 10 ^ 28) :
    ∃ turned, number.neg = .ok turned ∧ turned.IsCents (-cents) :=
  counted.exists_neg_eq few (by decide) (by decide)

/-- A sum is exact for cents of at most 28 digits. -/
theorem exists_add_eq_of_isCents (counted : number.IsCents cents)
    (otherCounted : other.IsCents otherCents) (few : cents.natAbs < 10 ^ 28)
    (otherFew : otherCents.natAbs < 10 ^ 28) (fewTogether : (cents + otherCents).natAbs < 10 ^ 28) :
    ∃ sum, number.add other = .ok sum ∧ sum.IsCents (cents + otherCents) :=
  counted.exists_add_eq otherCounted few otherFew fewTogether (by decide) (by decide)

end Cents

end Decimal

end Cashbook
