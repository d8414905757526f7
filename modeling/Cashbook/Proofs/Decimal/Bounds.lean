import Cashbook.Proofs.Decimal.Value

/-!
# Sums that do not overflow

A running sum stops growing: once it is so large that an addend is less than half of the last digit
that is kept, rounding takes the addend away again.  So numbers of a bounded size add up without
overflow, however many they are.
-/

namespace Cashbook.Decimal

variable {negative otherNegative : Bool} {coefficient otherCoefficient : Nat}
  {exponent otherExponent place : Int} {first second : Decimal}

/-- Is the number finite, and its size at most one at this decimal place? -/
structure IsAtMost (number : Decimal) (place : Int) : Prop where
  finite : number.isFinite = true
  size_le : |number.value| ≤ 10 ^ place

theorem isAtMost_zero (place : Int) : zero.IsAtMost place := by
  refine ⟨rfl, ?_⟩
  simp [zero, value, signed]
  positivity

theorem isAtMost_finite_iff : (finite negative coefficient exponent).IsAtMost place
    ↔ (coefficient : ℚ) * 10 ^ exponent ≤ 10 ^ place := by
  rw [← abs_value_finite negative]
  exact ⟨IsAtMost.size_le, fun small => ⟨rfl, small⟩⟩

/-! ## Rounding -/

/-- What is less than half a unit above a whole number is not rounded beyond it. -/
theorem dropDigits_le {bound digits : Nat}
    (close : 2 * coefficient < (2 * bound + 1) * 10 ^ digits) :
    dropDigits coefficient digits ≤ bound := by
  unfold dropDigits
  split_ifs
  · exact Nat.zero_le bound
  · have rounded := two_mul_divHalfEven_mul_le coefficient (Nat.pow 10 digits)
    rw [Nat.pow_eq] at rounded ⊢
    have scaled : divHalfEven coefficient (10 ^ digits) * 2 * 10 ^ digits
        < (2 * bound + 2) * 10 ^ digits := by
      calc
        _ = 2 * (divHalfEven coefficient (10 ^ digits) * 10 ^ digits) := by ring
        _ ≤ 2 * coefficient + 10 ^ digits := rounded
        _ < (2 * bound + 1) * 10 ^ digits + 10 ^ digits := by omega
        _ = (2 * bound + 2) * 10 ^ digits := by ring
    have := Nat.lt_of_mul_lt_mul_right scaled
    omega

/-- Rounding at a place before the first digit does not pass a power of ten that is less than half a
unit below. -/
theorem dropDigits_mul_le {cut : Int} (exponent_le : exponent ≤ cut) (cut_le : cut ≤ place)
    (close : (coefficient : ℚ) * 10 ^ exponent < 10 ^ place + 10 ^ cut / 2) :
    (dropDigits coefficient (cut - exponent).toNat : ℚ) * 10 ^ cut ≤ 10 ^ place := by
  have aligned := ten_pow_mul_of_le exponent_le
  have power := ten_pow_mul_of_le cut_le
  have scaled : (2 * coefficient : ℚ) * 10 ^ exponent
      < ((2 * 10 ^ (place - cut).toNat + 1) * 10 ^ (cut - exponent).toNat) * 10 ^ exponent := by
    calc
      (2 * coefficient : ℚ) * 10 ^ exponent = 2 * (coefficient * 10 ^ exponent) := by ring
      _ < 2 * (10 ^ place + 10 ^ cut / 2) := by linarith
      _ = 2 * (10 ^ (place - cut).toNat * 10 ^ cut) + 10 ^ cut := by rw [power]; ring
      _ = (2 * 10 ^ (place - cut).toNat + 1) * 10 ^ cut := by ring
      _ = _ := by rw [mul_assoc _ _ ((10 : ℚ) ^ exponent), aligned]
  have whole : 2 * coefficient
      < (2 * 10 ^ (place - cut).toNat + 1) * 10 ^ (cut - exponent).toNat := by
    exact_mod_cast lt_of_mul_lt_mul_right scaled (by positivity)
  calc
    (dropDigits coefficient (cut - exponent).toNat : ℚ) * 10 ^ cut
      ≤ (10 ^ (place - cut).toNat : Nat) * 10 ^ cut := by
        gcongr
        exact dropDigits_le whole
    _ = 10 ^ place := by push_cast; exact power

/-- A last digit less, and a place more, leave a number no larger. -/
theorem div_ten_mul_le (number : Nat) (place : Int) :
    ((number / 10 : Nat) : ℚ) * 10 ^ (place + 1) ≤ number * 10 ^ place := by
  calc
    ((number / 10 : Nat) : ℚ) * 10 ^ (place + 1)
      = ((number / 10 * 10 : Nat) : ℚ) * 10 ^ place := by
        rw [zpow_add_one₀ (by norm_num)]
        push_cast
        ring
    _ ≤ number * 10 ^ place := by
        gcongr
        exact Nat.div_mul_le_self number 10

/-- What is hardly more than a power of ten has its first digit there or later. -/
theorem leadingExponent_le (nonzero : coefficient ≠ 0)
    (small : (coefficient : ℚ) * 10 ^ exponent ≤ 10 ^ place + 10 ^ (place - working.digits)) :
    leadingExponent coefficient exponent ≤ place := by
  have unit : (10 : ℚ) ^ (place - working.digits) ≤ 10 ^ place :=
    zpow_le_zpow_right₀ (by norm_num) (by omega)
  rw [← Int.lt_add_one_iff, leadingExponent_lt_iff nonzero, zpow_add_one₀ (by norm_num)]
  linarith [zpow_pos (by norm_num : (0 : ℚ) < 10) place]

/-- What is hardly more than a power of ten is so by less than half of the last digit that is kept.
-/
theorem lt_add_half_cut (nonzero : coefficient ≠ 0)
    (small : (coefficient : ℚ) * 10 ^ exponent ≤ 10 ^ place + 10 ^ (place - working.digits)) :
    (coefficient : ℚ) * 10 ^ exponent
      < 10 ^ place + 10 ^ working.cutExponent coefficient exponent / 2 := by
  by_cases below : leadingExponent coefficient exponent < place
  · exact ((leadingExponent_lt_iff nonzero).mp below).trans (lt_add_of_pos_right _ (by positivity))
  · have cut_ge : place - working.digits + 1 ≤ working.cutExponent coefficient exponent := by
      unfold Precision.cutExponent
      omega
    have grown : (10 : ℚ) ^ (place - working.digits + 1)
        ≤ 10 ^ working.cutExponent coefficient exponent :=
      zpow_le_zpow_right₀ (by norm_num) cut_ge
    rw [zpow_add_one₀ (by norm_num)] at grown
    linarith [zpow_pos (by norm_num : (0 : ℚ) < 10) (place - working.digits)]

theorem cutExponent_le (leading : leadingExponent coefficient exponent ≤ place)
    (low : working.lastExponent ≤ place) : working.cutExponent coefficient exponent ≤ place := by
  have := digitCount_pos coefficient
  have digits : working.digits = 28 := rfl
  unfold Precision.cutExponent
  unfold leadingExponent at leading ⊢
  omega

/-- A result that is hardly more than a power of ten is fitted to at most that power. -/
theorem exists_fit_isAtMost (negative : Bool)
    (small : (coefficient : ℚ) * 10 ^ exponent ≤ 10 ^ place + 10 ^ (place - working.digits))
    (low : working.lastExponent ≤ place) (high : place ≤ working.maxExponent) :
    ∃ kept, fit negative coefficient exponent = .ok kept ∧ kept.IsAtMost place := by
  by_cases zero : coefficient = 0
  · subst zero
    refine ⟨_, if_pos rfl, isAtMost_finite_iff.mpr ?_⟩
    simp
    positivity
  · have leading := leadingExponent_le zero small
    have range : ¬working.maxExponent < leadingExponent coefficient exponent := by omega
    have exponent_le : exponent ≤ working.cutExponent coefficient exponent := le_max_left ..
    have rounded :=
      dropDigits_mul_le exponent_le (cutExponent_le leading low) (lt_add_half_cut zero small)
    simp only [fit, zero, if_false, range]
    generalize working.cutExponent coefficient exponent = cut at rounded ⊢
    generalize dropDigits coefficient (cut - exponent).toNat = kept at rounded ⊢
    split_ifs with few again
    · exact ⟨_, rfl, isAtMost_finite_iff.mpr rounded⟩
    · exfalso
      have nonzero : kept ≠ 0 := by
        rintro rfl
        exact few (by simp)
      have := leadingExponent_le nonzero
        (rounded.trans (le_add_of_nonneg_right (by positivity)))
      omega
    · exact ⟨_, rfl, isAtMost_finite_iff.mpr ((div_ten_mul_le kept cut).trans rounded)⟩

/-! ## Sums -/

/-- What takes the place of the smaller of two addends is at most that addend, or too small to count
beside the larger one. -/
theorem reachOf_le (order : otherExponent ≤ exponent) {bound otherBound : ℚ}
    (size_le : (coefficient : ℚ) * 10 ^ exponent ≤ bound)
    (other_le : (otherCoefficient : ℚ) * 10 ^ otherExponent ≤ otherBound)
    (unit_le : bound ≤ otherBound * 10 ^ working.digits) :
    (reachOf coefficient exponent otherCoefficient otherExponent).2 ≤ exponent
      ∧ ((reachOf coefficient exponent otherCoefficient otherExponent).1 : ℚ)
          * 10 ^ (reachOf coefficient exponent otherCoefficient otherExponent).2
        ≤ otherBound := by
  simp only [reachOf]
  split_ifs with replaced nothing
  · refine ⟨by dsimp only; omega, ?_⟩
    have nonnegative : (0 : ℚ) ≤ otherCoefficient * 10 ^ otherExponent := by positivity
    simpa using nonnegative.trans other_le
  · refine ⟨by dsimp only; omega, ?_⟩
    have first_digit : (10 : ℚ) ^ leadingExponent coefficient exponent
        ≤ coefficient * 10 ^ exponent :=
      (le_leadingExponent_iff replaced.1).mp le_rfl
    dsimp only
    rw [Nat.cast_one, one_mul]
    have scaled : (10 : ℚ)
        ^ (exponent + min (-1) ((digitCount coefficient : Int) - working.digits - 2))
        * 10 ^ working.digits ≤ otherBound * 10 ^ working.digits := by
      calc
        _ = (10 : ℚ) ^ (exponent + min (-1) ((digitCount coefficient : Int) - working.digits - 2)
              + working.digits) := by rw [← zpow_natCast, ← zpow_add₀ (by norm_num)]
        _ ≤ 10 ^ leadingExponent coefficient exponent :=
            zpow_le_zpow_right₀ (by norm_num) (by unfold leadingExponent; omega)
        _ ≤ coefficient * 10 ^ exponent := first_digit
        _ ≤ bound := size_le
        _ ≤ _ := unit_le
    exact le_of_mul_le_mul_right scaled (by positivity)
  · exact ⟨order, other_le⟩

theorem exists_addAligned_isAtMost (negative otherNegative : Bool)
    (order : otherExponent ≤ exponent) {bound otherBound : ℚ}
    (size_le : (coefficient : ℚ) * 10 ^ exponent ≤ bound)
    (other_le : (otherCoefficient : ℚ) * 10 ^ otherExponent ≤ otherBound)
    (unit_le : bound ≤ otherBound * 10 ^ working.digits)
    (sum_le : bound + otherBound ≤ 10 ^ place + 10 ^ (place - working.digits))
    (low : working.lastExponent ≤ place) (high : place ≤ working.maxExponent) :
    ∃ sum, addAligned negative coefficient exponent otherNegative otherCoefficient otherExponent
        = .ok sum ∧ sum.IsAtMost place := by
  obtain ⟨last_le, unit_small⟩ := reachOf_le order size_le other_le unit_le
  unfold addAligned
  generalize reachOf coefficient exponent otherCoefficient otherExponent = reached at *
  rcases reached with ⟨unit, last⟩
  dsimp only at last_le unit_small ⊢
  have aligned := ten_pow_mul_of_le last_le
  have size : ((signed negative (appendZeros coefficient (exponent - last).toNat)
      + signed otherNegative unit).natAbs : ℚ) * 10 ^ last
      ≤ 10 ^ place + 10 ^ (place - working.digits) := by
    have together : (signed negative (appendZeros coefficient (exponent - last).toNat)
        + signed otherNegative unit).natAbs
        ≤ coefficient * 10 ^ (exponent - last).toNat + unit := by
      refine (Int.natAbs_add_le _ _).trans_eq ?_
      rw [natAbs_signed, natAbs_signed, appendZeros_eq, Nat.pow_eq]
    calc
      _ ≤ ((coefficient * 10 ^ (exponent - last).toNat + unit : Nat) : ℚ) * 10 ^ last := by gcongr
      _ = coefficient * 10 ^ exponent + unit * 10 ^ last := by
          push_cast
          rw [add_mul, mul_assoc, aligned]
      _ ≤ bound + otherBound := add_le_add size_le unit_small
      _ ≤ _ := sum_le
  exact exists_fit_isAtMost _ size low high

/-- A sum does not grow beyond a power of ten by an addend that has 28 digits less. -/
theorem IsAtMost.exists_add_eq (atMost : first.IsAtMost place)
    (small : second.IsAtMost (place - working.digits)) (low : working.lastExponent ≤ place)
    (high : place ≤ working.maxExponent) :
    ∃ sum, first.add second = .ok sum ∧ sum.IsAtMost place := by
  have power : (10 : ℚ) ^ (place - working.digits) * 10 ^ working.digits = 10 ^ place := by
    rw [← zpow_natCast, ← zpow_add₀ (by norm_num), sub_add_cancel]
  cases first with
  | infinite negative => cases atMost.finite
  | notNumber negative signaling payload => cases atMost.finite
  | finite negative coefficient exponent =>
      cases second with
      | infinite otherNegative => cases small.finite
      | notNumber otherNegative signaling payload => cases small.finite
      | finite otherNegative otherCoefficient otherExponent =>
          rw [isAtMost_finite_iff] at atMost small
          simp only [add]
          split_ifs with order
          · exact exists_addAligned_isAtMost negative otherNegative order atMost small power.ge
              le_rfl low high
          · have tiny : (10 : ℚ) ^ (place - working.digits) ≤ 10 ^ place * 10 ^ working.digits := by
              rw [← zpow_natCast, ← zpow_add₀ (by norm_num)]
              exact zpow_le_zpow_right₀ (by norm_num) (by omega)
            exact exists_addAligned_isAtMost otherNegative negative (by omega) small atMost tiny
              (add_comm _ _).le low high

/-- The number with the other sign is no larger. -/
theorem IsAtMost.exists_neg_eq (atMost : first.IsAtMost place) (low : working.lastExponent ≤ place)
    (high : place ≤ working.maxExponent) :
    ∃ turned, first.neg = .ok turned ∧ turned.IsAtMost place := by
  cases first with
  | infinite negative => cases atMost.finite
  | notNumber negative signaling payload => cases atMost.finite
  | finite negative coefficient exponent =>
      exact exists_fit_isAtMost _ ((isAtMost_finite_iff.mp atMost).trans
        (le_add_of_nonneg_right (by positivity))) low high

/-- What has 28 digits of cents has at most 26 before the point. -/
theorem isAtMost_of_isCents {number : Decimal} {cents : Int} (counted : number.IsCents cents)
    (few : cents.natAbs < 10 ^ 28) : number.IsAtMost 26 := by
  rcases isCents_iff.mp counted with ⟨finite, value_eq⟩
  have size : |(cents : ℚ)| < 10 ^ 28 := by
    rw [← Int.cast_abs, Int.abs_eq_natAbs]
    exact_mod_cast few
  refine ⟨finite, ?_⟩
  rw [value_eq, abs_div, abs_of_pos (by norm_num : (0 : ℚ) < 100), div_le_iff₀ (by norm_num)]
  norm_num at size ⊢
  exact size.le

end Cashbook.Decimal
