import Cashbook.Money.Amount
import Cashbook.Money.Stored
import Cashbook.Proofs.Decimal.Value
import Mathlib.Tactic.NormNum

/-!
# How exact stored amounts are

Storing an amount, adding to it and taking from it each round once.  As long as all roundings
together stay below half a cent, reading gives the exact number of cents.
-/

namespace Cashbook

variable {cents : Int}

namespace Binary64

/-- The number of steps in one and the limit are powers of two.  Their exponents are kept under
names, so that arithmetic does not write the powers out. -/
theorem exists_one_eq :
    ∃ low high, high = 1024 ∧ one = 2 ^ (low + 54) ∧ limit = 2 ^ high * one := by
  obtain ⟨low, low_eq⟩ : ∃ low, 1074 = low + 54 := ⟨1020, rfl⟩
  obtain ⟨high, high_eq⟩ : ∃ high, high = 1024 := ⟨_, rfl⟩
  have limit_exponent : 2098 = high + (low + 54) := by omega
  have one_eq : one = Nat.pow 2 (low + 54) := by
    delta one
    rw [low_eq]
  have limit_eq : limit = Nat.pow 2 (high + (low + 54)) := by
    delta limit
    rw [limit_exponent]
  exact ⟨low, high, high_eq, one_eq, by rw [limit_eq, one_eq]; exact Nat.pow_add ..⟩

theorem one_pos : 0 < one := by
  rcases exists_one_eq with ⟨low, high, -, one_eq, -⟩
  rw [one_eq]
  positivity

theorem limit_pos : 0 < limit := by
  rcases exists_one_eq with ⟨low, high, -, -, limit_eq⟩
  rw [limit_eq]
  exact Nat.mul_pos (by positivity) one_pos

/-- Sizes below a power of two are rounded by at most so much, and stay in range. -/
theorem nearest_mul_one {numerator denominator bits : Nat} (positive : 0 < denominator)
    (range : bits < 1024) (small : numerator < denominator * 2 ^ bits) :
    nearest (numerator * one) denominator < limit
      ∧ |(nearest (numerator * one) denominator : ℚ) / one - numerator / denominator|
        ≤ 2 ^ bits / 2 ^ 54 := by
  have scale : (0 : ℚ) < one := by exact_mod_cast one_pos
  rcases exists_one_eq with ⟨low, high, high_eq, one_eq, limit_eq⟩
  generalize one = unit at *
  have steps : numerator * unit < denominator * 2 ^ bits * unit :=
    Nat.mul_lt_mul_of_pos_right small (by exact_mod_cast scale)
  constructor
  · have size : IsSize (2 ^ bits * unit) :=
      ⟨1, bits + (low + 54), by norm_num, by rw [one_eq]; ring⟩
    have bounded : nearest (numerator * unit) denominator ≤ 2 ^ bits * unit :=
      nearest_le positive size (by linarith)
    rw [limit_eq]
    apply bounded.trans_lt
    exact Nat.mul_lt_mul_of_pos_right (Nat.pow_lt_pow_right (by norm_num) (by omega))
      (by exact_mod_cast scale)
  · have rounded := abs_nearest_sub_le (bits + low + 1) positive
      (steps.trans_eq (by rw [one_eq]; ring))
    have apart : (nearest (numerator * unit) denominator : ℚ) / unit - numerator / denominator
        = (nearest (numerator * unit) denominator - (numerator * unit : Nat) / denominator)
          / unit := by
      push_cast
      field_simp
    rw [apart, abs_div, abs_of_pos scale, div_le_iff₀ scale]
    apply rounded.trans_eq
    rw [one_eq]
    push_cast
    field_simp
    ring

/-- However a decimal number is written, its size in steps is one quotient. -/
theorem nearest_shift {coefficient numerator denominator : Nat} {exponent : Int} (unit : Nat)
    (positive : 0 < denominator)
    (equal : (coefficient : ℚ) * 10 ^ exponent = numerator / denominator) :
    (if 0 ≤ exponent then nearest (coefficient * Nat.pow 10 exponent.toNat * unit) 1
      else nearest (coefficient * unit) (Nat.pow 10 (-exponent).toNat))
      = nearest (numerator * unit) denominator := by
  have scale : (denominator : ℚ) ≠ 0 := by exact_mod_cast positive.ne'
  split_ifs with whole
  · have product : coefficient * 10 ^ exponent.toNat * denominator = numerator := by
      have power : (10 : ℚ) ^ exponent = 10 ^ exponent.toNat := by
        rw [← zpow_natCast, Int.toNat_of_nonneg whole]
      rw [power, eq_div_iff scale] at equal
      exact_mod_cast equal
    rw [← nearest_mul_mul _ _ positive, Nat.one_mul, Nat.pow_eq, ← product]
    congr 1
    ring
  · have product : coefficient * denominator = numerator * 10 ^ (-exponent).toNat := by
      have power : (10 : ℚ) ^ (-exponent).toNat = (10 ^ exponent)⁻¹ := by
        rw [← zpow_natCast, Int.toNat_of_nonneg (by omega), zpow_neg]
      have crossed : (coefficient : ℚ) * denominator = numerator * 10 ^ (-exponent).toNat := by
        rw [power]
        field_simp at equal ⊢
        exact equal
      exact_mod_cast crossed
    have tens : 0 < 10 ^ (-exponent).toNat := by positivity
    rw [← nearest_mul_mul _ _ positive, ← nearest_mul_mul (numerator * unit) _ tens,
      Nat.pow_eq]
    congr 1
    · calc
        coefficient * unit * denominator = coefficient * denominator * unit := by ring
        _ = numerator * unit * 10 ^ (-exponent).toNat := by rw [product]; ring
    · ring

/-- The size of a decimal number depends on its value only. -/
theorem ofDecimalSize?_eq {coefficient numerator denominator : Nat} {exponent : Int}
    (nonzero : coefficient ≠ 0) (positive : 0 < denominator)
    (equal : (coefficient : ℚ) * 10 ^ exponent = numerator / denominator)
    (low : -330 ≤ Decimal.leadingExponent coefficient exponent)
    (high : Decimal.leadingExponent coefficient exponent ≤ 330) :
    ofDecimalSize? coefficient exponent =
      if nearest (numerator * one) denominator < limit
      then some (nearest (numerator * one) denominator) else none := by
  have seen : ¬(coefficient = 0 ∨ Decimal.leadingExponent coefficient exponent < -330) := by
    omega
  rw [ofDecimalSize?]
  simp only [seen, if_false, not_lt.mpr high, nearest_shift one positive equal]

/-- The range of binary numbers ends below a power of ten. -/
theorem two_pow_le_ten_pow {bits : Nat} (range : bits ≤ 1024) :
    (2 : ℚ) ^ bits ≤ 10 ^ ((4 * 79 : Nat) : Int) := by
  calc
    (2 : ℚ) ^ bits ≤ 2 ^ (13 * 79) := pow_le_pow_right₀ (by norm_num) (by omega)
    _ = (2 ^ 13) ^ 79 := pow_mul ..
    _ ≤ (10 ^ 4) ^ 79 := pow_le_pow_left₀ (by norm_num) (by norm_num) 79
    _ = 10 ^ ((4 * 79 : Nat) : Int) := by rw [zpow_natCast, pow_mul]

theorem isSize_two_pow_mul_one (bits : Nat) : IsSize (2 ^ bits * one) := by
  rcases exists_one_eq with ⟨low, -, -, one_eq, -⟩
  exact ⟨1, bits + (low + 54), by norm_num, by rw [one_eq]; ring⟩

/-- A size is a quotient of whole numbers. -/
theorem exists_quotient_eq (coefficient : Nat) (exponent : Int) :
    ∃ numerator denominator : Nat, 0 < denominator
      ∧ (coefficient : ℚ) * 10 ^ exponent = numerator / denominator := by
  rcases Int.eq_nat_or_neg exponent with ⟨places, rfl | rfl⟩
  · exact ⟨coefficient * 10 ^ places, 1, Nat.one_pos, by push_cast; rw [zpow_natCast, div_one]⟩
  · refine ⟨coefficient, 10 ^ places, by positivity, ?_⟩
    push_cast
    rw [zpow_neg, zpow_natCast, div_eq_mul_inv]

/-- What is below a power of two is finite and not rounded beyond it. -/
theorem exists_ofDecimalSize?_eq {coefficient bits : Nat} {exponent : Int} (range : bits < 1024)
    (small : (coefficient : ℚ) * 10 ^ exponent < 2 ^ bits) :
    ∃ steps, ofDecimalSize? coefficient exponent = some steps ∧ IsSize steps
      ∧ steps ≤ 2 ^ bits * one := by
  by_cases nothing : coefficient = 0 ∨ Decimal.leadingExponent coefficient exponent < -330
  · exact ⟨0, by simp only [ofDecimalSize?, nothing, if_true], isSize_zero, Nat.zero_le _⟩
  · rcases not_or.mp nothing with ⟨nonzero, small_place⟩
    have low := not_lt.mp small_place
    have high : Decimal.leadingExponent coefficient exponent < (4 * 79 : Nat) :=
      (Decimal.leadingExponent_lt_iff nonzero).mpr
        (small.trans_le (two_pow_le_ten_pow range.le))
    obtain ⟨numerator, denominator, positive, equal⟩ := exists_quotient_eq coefficient exponent
    have below : numerator < denominator * 2 ^ bits := by
      rw [equal, div_lt_iff₀ (by exact_mod_cast positive), mul_comm] at small
      exact_mod_cast small
    refine ⟨nearest (numerator * one) denominator, ?_, isSize_nearest positive, ?_⟩
    · rw [ofDecimalSize?_eq nonzero positive equal low (by omega),
        if_pos (nearest_mul_one positive range below).1]
    · apply nearest_le positive (isSize_two_pow_mul_one bits)
      calc
        numerator * one ≤ denominator * 2 ^ bits * one := Nat.mul_le_mul_right _ below.le
        _ = 2 ^ bits * one * denominator := by ring

/-- Numbers of one value have one size, in or out of range. -/
theorem ofDecimalSize?_eq_of_eq {coefficient otherCoefficient : Nat} {exponent otherExponent : Int}
    (equal : (coefficient : ℚ) * 10 ^ exponent = otherCoefficient * 10 ^ otherExponent) :
    ofDecimalSize? coefficient exponent = ofDecimalSize? otherCoefficient otherExponent := by
  have zero_iff : coefficient = 0 ↔ otherCoefficient = 0 := by
    have scale : ∀ place : Int, (10 : ℚ) ^ place ≠ 0 := fun place => by positivity
    rw [← Nat.cast_eq_zero (R := ℚ), ← mul_eq_zero_iff_right (scale exponent), equal,
      mul_eq_zero_iff_right (scale otherExponent), Nat.cast_eq_zero]
  by_cases zero : coefficient = 0
  · simp only [ofDecimalSize?, zero, zero_iff.mp zero, true_or, if_true]
  · have otherNonzero := mt zero_iff.mpr zero
    have leading := Decimal.leadingExponent_eq_of_eq zero otherNonzero equal
    rcases exists_quotient_eq coefficient exponent with ⟨numerator, denominator, positive, quotient⟩
    have shift := nearest_shift one positive quotient
    have other_shift := nearest_shift one positive (equal.symm.trans quotient)
    simp only [ofDecimalSize?, zero, otherNonzero, false_or, leading, shift, other_shift]

/-- A number of cents beyond the range has more than a thousand bits. -/
theorem le_of_limit_le_nearest {count bits : Nat} (large : limit ≤ nearest (count * one) 100)
    (range : bits < 1024) : 100 * 2 ^ bits ≤ count := by
  by_contra small
  exact absurd (nearest_mul_one (by norm_num) range (not_le.mp small)).1 (not_lt.mpr large)

/-- A number of cents of more than a thousand bits is beyond the range. -/
theorem limit_le_nearest {count : Nat} (large : 100 * 2 ^ 1024 ≤ count) :
    limit ≤ nearest (count * one) 100 := by
  rcases exists_one_eq with ⟨-, high, high_eq, -, limit_eq⟩
  rw [← high_eq] at large
  rw [limit_eq]
  apply le_nearest (by norm_num) (isSize_two_pow_mul_one high)
  calc
    2 ^ high * one * 100 = 100 * 2 ^ high * one := by ring
    _ ≤ count * one := Nat.mul_le_mul_right _ large

/-- The size of a number of cents is the nearest one, unless that is beyond the range. -/
theorem ofDecimalSize?_of_cents {coefficient count : Nat} {exponent : Int}
    (equal : (coefficient : ℚ) * 10 ^ exponent = count * 10 ^ (-2 : Int)) :
    ofDecimalSize? coefficient exponent =
      if nearest (count * one) 100 < limit then some (nearest (count * one) 100) else none := by
  have size : (coefficient : ℚ) * 10 ^ exponent = count / 100 := by
    rw [equal]
    norm_num
    ring
  by_cases zero : coefficient = 0
  · subst zero
    obtain rfl : count = 0 := by
      have nothing : (count : ℚ) / 100 = 0 := by simpa using size.symm
      exact_mod_cast (div_eq_zero_iff.mp nothing).resolve_right (by norm_num)
    have none_near : nearest (0 * one) 100 ≤ 0 :=
      nearest_le (by norm_num) isSize_zero (by rw [zero_mul, zero_mul])
    rw [Nat.le_zero.mp none_near, if_pos limit_pos]
    rfl
  · have low := Decimal.le_leadingExponent_of_eq zero equal
    by_cases high : Decimal.leadingExponent coefficient exponent ≤ 330
    · exact ofDecimalSize?_eq zero (by norm_num) (by exact_mod_cast size) (by omega) high
    · have seen : ¬(coefficient = 0 ∨ Decimal.leadingExponent coefficient exponent < -330) := by
        omega
      have large : ((4 * 79 : Nat) : Int) ≤ Decimal.leadingExponent coefficient exponent := by
        omega
      rw [Decimal.le_leadingExponent_iff zero, size] at large
      have bounded := (two_pow_le_ten_pow le_rfl).trans large
      rw [le_div_iff₀ (by norm_num), mul_comm] at bounded
      have beyond : limit ≤ nearest (count * one) 100 :=
        limit_le_nearest (by exact_mod_cast bounded)
      rw [if_neg (not_lt.mpr beyond)]
      simp only [ofDecimalSize?, seen, if_false, not_le.mp high, if_true]

/-- A large number of cents is read as a large number. -/
theorem le_hundredths_nearest {count bits : Nat} (large : 100 * 2 ^ bits ≤ count) :
    100 * 2 ^ bits ≤ hundredths (nearest (count * one) 100) := by
  have above : 2 ^ bits * one ≤ nearest (count * one) 100 := by
    apply le_nearest (by norm_num) (isSize_two_pow_mul_one bits)
    calc
      2 ^ bits * one * 100 = 100 * 2 ^ bits * one := by ring
      _ ≤ count * one := Nat.mul_le_mul_right _ large
  apply le_divHalfEven one_pos
  calc
    100 * 2 ^ bits * one = 2 ^ bits * one * 100 := by ring
    _ ≤ nearest (count * one) 100 * 100 := Nat.mul_le_mul_right _ above

end Binary64

namespace Money

/-- What can be stored without rounding is a whole number of cents of at most 28 digits. -/
theorem exists_isCents_of_isWholeCents {amount : Decimal} (whole : isWholeCents amount = true) :
    ∃ cents : Int, amount.IsCents cents ∧ cents.natAbs < 10 ^ Decimal.working.digits := by
  unfold isWholeCents at whole
  cases amount with
  | finite negative coefficient exponent =>
      obtain ⟨cents, small, order⟩ : ∃ cents, cents < 10 ^ Decimal.working.digits
          ∧ (Decimal.finite negative coefficient exponent).order? (.ofCents negative cents)
            = some .eq := by
        simp only [Decimal.toCents] at whole
        split_ifs at whole with large low short short
        · exact ⟨_, short, by simpa using whole⟩
        · exact ⟨_, short, by simpa using whole⟩
      rw [Decimal.order?_of_isFinite rfl rfl, Option.some.injEq, compare_eq_iff_eq] at order
      exact ⟨Decimal.signed negative cents, ⟨rfl, order⟩, by rwa [Decimal.natAbs_signed]⟩
  | infinite negative => simp [Decimal.toCents] at whole
  | notNumber negative signaling payload =>
      cases signaling <;> simp [Decimal.toCents, Decimal.passOn, Decimal.order?] at whole

/-- A number of cents of at most 28 digits is brought to two places without a change. -/
theorem toCents_of_isCents {amount : Decimal} {cents : Int} (counted : amount.IsCents cents)
    (few : cents.natAbs < 10 ^ Decimal.working.digits) :
    ∃ negative, amount.toCents = .ok (.ofCents negative cents.natAbs)
      ∧ Decimal.signed negative cents.natAbs = cents := by
  rcases counted.exists_size_eq with ⟨negative, coefficient, exponent, rfl, size, sign⟩
  have short : ¬(coefficient ≠ 0 ∧ (Decimal.working.digits : Int)
      < Decimal.leadingExponent coefficient exponent + 3) := by
    rintro ⟨nonzero, long⟩
    have below : (cents.natAbs : ℚ) * 10 ^ (-2 : Int) < 10 ^ (26 : Int) := by
      have bounded : (cents.natAbs : ℚ) < 10 ^ 28 := by exact_mod_cast few
      norm_num at bounded ⊢
      linarith
    rw [← size, ← Decimal.leadingExponent_lt_iff nonzero] at below
    rw [show (Decimal.working.digits : Int) = 28 from rfl] at long
    omega
  have cents_eq : (if -2 ≤ exponent then Decimal.appendZeros coefficient (exponent + 2).toNat
      else Decimal.dropDigits coefficient (-2 - exponent).toNat) = cents.natAbs := by
    split_ifs with coarse
    · have shifted : (coefficient : ℚ) * 10 ^ (exponent + 2).toNat = cents.natAbs := by
        have power : (10 : ℚ) ^ (exponent + 2).toNat = 10 ^ exponent * 10 ^ (2 : Int) := by
          rw [← zpow_add₀ (by norm_num), ← zpow_natCast, Int.toNat_of_nonneg (by omega)]
        rw [power, ← mul_assoc, size, mul_assoc, ← zpow_add₀ (by norm_num : (10 : ℚ) ≠ 0),
          show (-2 : Int) + 2 = 0 from rfl, zpow_zero, mul_one]
      rw [Decimal.appendZeros_eq]
      exact_mod_cast shifted
    · have shifted : (coefficient : ℚ) = cents.natAbs * 10 ^ (-2 - exponent).toNat := by
        have power : (10 : ℚ) ^ (-2 - exponent).toNat = 10 ^ (-2 : Int) / 10 ^ exponent := by
          rw [← zpow_sub₀ (by norm_num), ← zpow_natCast, Int.toNat_of_nonneg (by omega)]
        rw [power, ← mul_div_assoc, ← size, mul_div_cancel_right₀ _ (by positivity)]
      rw [show coefficient = cents.natAbs * 10 ^ (-2 - exponent).toNat by exact_mod_cast shifted]
      exact Decimal.dropDigits_mul _
  refine ⟨negative, ?_, sign⟩
  rw [Decimal.toCents, if_neg short]
  dsimp only
  rw [cents_eq]
  exact if_pos few

/-- An amount counts as whole cents where it is a number of cents of at most 28 digits, in whatever
form. -/
theorem isWholeCents_iff {amount : Decimal} : isWholeCents amount = true ↔
    ∃ cents : Int, amount.IsCents cents ∧ cents.natAbs < 10 ^ Decimal.working.digits := by
  constructor
  · exact exists_isCents_of_isWholeCents
  · rintro ⟨cents, counted, few⟩
    rcases toCents_of_isCents counted few with ⟨negative, kept, sign⟩
    have same : amount.value = (Decimal.ofCents negative cents.natAbs).value := by
      rw [counted.2, Decimal.ofCents, Decimal.value, sign]
    rw [isWholeCents, kept]
    dsimp only
    rw [Decimal.order?_of_isFinite counted.1 rfl, same, compare_eq_iff_eq.mpr rfl]
    rfl

/-- A positive amount that can be moved is a positive number of cents. -/
theorem exists_isCents_pos {amount : Decimal} (positive : amount.isNotPositive = .ok false)
    (whole : isWholeCents amount = true) :
    ∃ cents : Int, amount.IsCents cents ∧ 0 < cents
      ∧ cents.natAbs < 10 ^ Decimal.working.digits := by
  rcases exists_isCents_of_isWholeCents whole with ⟨cents, counted, few⟩
  rcases Decimal.isCents_iff.mp counted with ⟨finite, value_eq⟩
  rw [Decimal.isNotPositive_of_isFinite finite, value_eq, Except.ok.injEq,
    decide_eq_false_iff_not, not_le] at positive
  have scaled := (div_pos_iff_of_pos_right (by norm_num : (0 : ℚ) < 100)).mp positive
  exact ⟨cents, counted, by exact_mod_cast scaled, few⟩

namespace Stored

/-- Is the stored amount finite and at most so far away from a value? -/
def Within (error value : ℚ) (amount : Stored) : Prop :=
  ∃ steps : Int, amount = finite steps ∧ |(steps : ℚ) / Binary64.one - value| ≤ error

variable {error otherError value otherValue : ℚ} {amount other : Stored} {bits : Nat}

theorem Within.mono (near : amount.Within error value) (wider : error ≤ otherError) :
    amount.Within otherError value := by
  rcases near with ⟨steps, rfl, close⟩
  exact ⟨steps, rfl, close.trans wider⟩

theorem Within.neg (near : amount.Within error value) : amount.neg.Within error (-value) := by
  rcases near with ⟨steps, rfl, close⟩
  refine ⟨-steps, rfl, ?_⟩
  rw [← abs_neg]
  convert close using 2
  push_cast
  ring

/-- Rounding a size in steps moves it by at most so much. -/
theorem within_finite_nearest {numerator denominator : Nat} (negative : Bool)
    (positive : 0 < denominator) (range : bits < 1024)
    (small : numerator < denominator * 2 ^ bits) :
    (finite (Decimal.signed negative
        (Binary64.nearest (numerator * Binary64.one) denominator))).Within (2 ^ bits / 2 ^ 54)
      (Decimal.signed negative numerator / denominator) := by
  refine ⟨_, rfl, ?_⟩
  have close := (Binary64.nearest_mul_one positive range small).2
  generalize Binary64.nearest (numerator * Binary64.one) denominator = size at close ⊢
  generalize Binary64.one = unit at close ⊢
  cases negative
  · simpa [Decimal.signed] using close
  · rw [← abs_neg] at close
    simp only [Decimal.signed, if_true]
    convert close using 2
    push_cast
    ring

/-- Rounding a number of steps moves it by at most so much. -/
theorem within_ofSteps {steps : Int} (range : bits < 1024)
    (small : |(steps : ℚ) / Binary64.one| < 2 ^ bits) :
    (ofSteps steps).Within (2 ^ bits / 2 ^ 54) (steps / Binary64.one) := by
  have scale : (0 : ℚ) < Binary64.one := by exact_mod_cast Binary64.one_pos
  have bounded : steps.natAbs < Binary64.one * 2 ^ bits := by
    rw [abs_div, abs_of_pos scale, div_lt_iff₀ scale, ← Int.cast_abs, Int.abs_eq_natAbs] at small
    rw [Nat.mul_comm]
    exact_mod_cast small
  have unscaled : Binary64.nearest steps.natAbs 1
      = Binary64.nearest (steps.natAbs * Binary64.one) Binary64.one := by
    have scaled := Binary64.nearest_mul_mul steps.natAbs 1 Binary64.one_pos
    rw [← scaled, Nat.one_mul]
  have limited := (Binary64.nearest_mul_one Binary64.one_pos range bounded).1
  simp only [ofSteps, unscaled, limited, if_true]
  have near := within_finite_nearest (decide (steps < 0)) Binary64.one_pos range bounded
  rwa [Decimal.signed_natAbs] at near

/-- Every finite number has a stored form. -/
theorem exists_ofDecimal?_of_isFinite {number : Decimal} (finite : number.isFinite = true) :
    ∃ stored, ofDecimal? number = some stored := by
  cases number with
  | finite negative coefficient exponent =>
      unfold ofDecimal? Binary64.ofDecimal
      dsimp only
      split
      · exact ⟨_, rfl⟩
      · exact ⟨_, rfl⟩
  | infinite negative => cases finite
  | notNumber negative signaling payload => cases finite

/-- The stored form of a finite number depends on its value only. -/
theorem ofDecimal?_eq_of_value_eq {first second : Decimal} (first_finite : first.isFinite = true)
    (second_finite : second.isFinite = true) (equal : first.value = second.value) :
    ofDecimal? first = ofDecimal? second := by
  obtain ⟨negative, coefficient, exponent⟩ | _ | _ := first <;>
    try simp [Decimal.isFinite] at first_finite
  obtain ⟨otherNegative, otherCoefficient, otherExponent⟩ | _ | _ := second <;>
    try simp [Decimal.isFinite] at second_finite
  have sizes := congrArg abs equal
  rw [Decimal.abs_value_finite, Decimal.abs_value_finite] at sizes
  have stored_sizes := Binary64.ofDecimalSize?_eq_of_eq sizes
  by_cases same : negative = otherNegative
  · simp only [ofDecimal?, Binary64.ofDecimal, stored_sizes, same]
  · -- Only zero has both signs, and its stored form has none.
    have nothing : (coefficient : ℚ) * 10 ^ exponent = 0 := by
      rw [Decimal.value, Decimal.value, Decimal.signed_mul, Decimal.signed_mul, ← sizes] at equal
      generalize (coefficient : ℚ) * 10 ^ exponent = size at equal ⊢
      cases negative <;> cases otherNegative
      · exact absurd rfl same
      · exact self_eq_neg.mp equal
      · exact self_eq_neg.mp equal.symm
      · exact absurd rfl same
    have zero : coefficient = 0 := by
      exact_mod_cast (mul_eq_zero.mp nothing).resolve_right (by positivity)
    have size : Binary64.ofDecimalSize? coefficient exponent = some 0 := by
      simp only [Binary64.ofDecimalSize?, zero, true_or, if_true]
    rw [size] at stored_sizes
    simp only [ofDecimal?, Binary64.ofDecimal, size, ← stored_sizes, ofBinary?]
    cases negative <;> cases otherNegative <;> rfl

/-- What is below a power of two in range is stored as a finite amount. -/
theorem exists_ofDecimal?_eq_finite {number : Decimal} (number_finite : number.isFinite = true)
    (range : bits < 1024) (small : |number.value| < 2 ^ bits) :
    ∃ steps, ofDecimal? number = some (finite steps) := by
  cases number with
  | finite negative coefficient exponent =>
      rw [Decimal.abs_value_finite] at small
      rcases Binary64.exists_ofDecimalSize?_eq range small with ⟨steps, steps_eq, -⟩
      exact ⟨_, by simp only [ofDecimal?, Binary64.ofDecimal, steps_eq, ofBinary?]; rfl⟩
  | infinite negative => cases number_finite
  | notNumber negative signaling payload => cases number_finite

/-- A finite amount can be added to every amount. -/
theorem exists_add?_finite (amount : Stored) (steps : Int) :
    ∃ sum, amount.add? (finite steps) = some sum := by
  cases amount with
  | finite others => exact ⟨_, rfl⟩
  | infinite negative => exact ⟨_, rfl⟩

/-- A number of cents is stored as the nearest binary number, whatever its form; only what is beyond
the range is infinite. -/
theorem ofDecimal?_of_isCents {number : Decimal} (counted : number.IsCents cents) :
    ∃ negative, Decimal.signed negative cents.natAbs = cents
      ∧ (Binary64.nearest (cents.natAbs * Binary64.one) 100 < Binary64.limit
          ∧ ofDecimal? number = some (finite (Decimal.signed negative
              (Binary64.nearest (cents.natAbs * Binary64.one) 100)))
        ∨ Binary64.limit ≤ Binary64.nearest (cents.natAbs * Binary64.one) 100
          ∧ ofDecimal? number = some (infinite negative)) := by
  rcases counted.exists_size_eq with ⟨negative, coefficient, exponent, rfl, size, sign⟩
  refine ⟨negative, sign, ?_⟩
  have rounded := Binary64.ofDecimalSize?_of_cents size
  split_ifs at rounded with limited
  · left
    exact ⟨limited, by simp only [ofDecimal?, Binary64.ofDecimal, rounded, ofBinary?]⟩
  · right
    exact ⟨not_lt.mp limited, by simp only [ofDecimal?, Binary64.ofDecimal, rounded, ofBinary?]⟩

/-- A number of cents in range is stored with one rounding. -/
theorem exists_ofDecimal?_eq {number : Decimal} (counted : number.IsCents cents)
    (range : bits < 1024) (small : |(cents : ℚ) / 100| < 2 ^ bits) :
    ∃ stored, ofDecimal? number = some stored
      ∧ stored.Within (2 ^ bits / 2 ^ 54) (cents / 100) := by
  have few : cents.natAbs < 100 * 2 ^ bits := by
    rw [abs_div, abs_of_pos (by norm_num : (0 : ℚ) < 100), ← Int.cast_abs, Int.abs_eq_natAbs,
      div_lt_iff₀ (by norm_num), mul_comm] at small
    exact_mod_cast small
  rcases ofDecimal?_of_isCents counted with ⟨negative, sign, ⟨-, stored_eq⟩ | ⟨large, -⟩⟩
  · refine ⟨_, stored_eq, ?_⟩
    have near := within_finite_nearest negative (by norm_num : 0 < 100) range few
    rw [sign] at near
    exact_mod_cast near
  · exact absurd (Binary64.le_of_limit_le_nearest large range) (not_le.mpr few)

/-- A sum rounds once more. -/
theorem Within.exists_add?_eq (near : amount.Within error value)
    (otherNear : other.Within otherError otherValue) (range : bits < 1024)
    (small : |value + otherValue| + (error + otherError) < 2 ^ bits) :
    ∃ sum, amount.add? other = some sum
      ∧ sum.Within (error + otherError + 2 ^ bits / 2 ^ 54) (value + otherValue) := by
  rcases near with ⟨steps, rfl, close⟩
  rcases otherNear with ⟨otherSteps, rfl, otherClose⟩
  have exact_close : |((steps + otherSteps : Int) : ℚ) / Binary64.one - (value + otherValue)|
      ≤ error + otherError := by
    calc
      _ = |((steps : ℚ) / Binary64.one - value) + (otherSteps / Binary64.one - otherValue)| := by
        congr 1
        push_cast
        ring
      _ ≤ |(steps : ℚ) / Binary64.one - value| + |otherSteps / Binary64.one - otherValue| :=
        abs_add_le ..
      _ ≤ error + otherError := add_le_add close otherClose
  have exact_small : |((steps + otherSteps : Int) : ℚ) / Binary64.one| < 2 ^ bits := by
    calc
      _ = |(((steps + otherSteps : Int) : ℚ) / Binary64.one - (value + otherValue))
            + (value + otherValue)| := by rw [sub_add_cancel]
      _ ≤ (error + otherError) + |value + otherValue| :=
        (abs_add_le ..).trans (add_le_add_left exact_close _)
      _ < 2 ^ bits := by rwa [add_comm]
  rcases within_ofSteps range exact_small with ⟨sum, sum_eq, rounded⟩
  refine ⟨_, rfl, sum, sum_eq, ?_⟩
  calc
    _ = |((sum : ℚ) / Binary64.one - (steps + otherSteps : Int) / Binary64.one)
          + ((steps + otherSteps : Int) / Binary64.one - (value + otherValue))| := by
        rw [sub_add_sub_cancel]
    _ ≤ 2 ^ bits / 2 ^ 54 + (error + otherError) :=
      (abs_add_le ..).trans (add_le_add rounded exact_close)
    _ = error + otherError + 2 ^ bits / 2 ^ 54 := add_comm ..

theorem Within.of_add?_eq {sum : Stored} (added : amount.add? other = some sum)
    (near : amount.Within error value) (otherNear : other.Within otherError otherValue)
    (range : bits < 1024) (small : |value + otherValue| + (error + otherError) < 2 ^ bits) :
    sum.Within (error + otherError + 2 ^ bits / 2 ^ 54) (value + otherValue) := by
  rcases near.exists_add?_eq otherNear range small with ⟨same, same_eq, close⟩
  obtain rfl : sum = same := Option.some.inj (added.symm.trans same_eq)
  exact close

/-- Half a unit is too little to change the sign or the number of units. -/
theorem signed_divHalfEven_eq {steps : Int} {unit : Nat}
    (gap : 2 * |steps * 100 - unit * cents| < unit) :
    Decimal.signed (decide (steps < 0)) (divHalfEven (steps.natAbs * 100) unit) = cents := by
  have above := le_abs_self (steps * 100 - unit * cents)
  have below := neg_abs_le (steps * 100 - unit * cents)
  have positive : 0 < unit := by
    have := abs_nonneg (steps * 100 - unit * cents)
    omega
  rcases lt_or_ge steps 0 with negative | nonnegative
  · have debt : cents ≤ 0 := by
      by_contra credit
      nlinarith
    rcases Int.eq_ofNat_of_zero_le (neg_nonneg.mpr negative.le) with ⟨size, size_eq⟩
    rcases Int.eq_ofNat_of_zero_le (neg_nonneg.mpr debt) with ⟨count, count_eq⟩
    obtain rfl : steps = -size := by omega
    obtain rfl : cents = -count := by omega
    rw [Int.natAbs_neg, Int.natAbs_natCast, divHalfEven_eq_of_close count positive]
    · simp only [Decimal.signed, negative, decide_true, if_true]
    · zify
      linarith
    · zify
      linarith
  · have credit : 0 ≤ cents := by
      by_contra debt
      nlinarith
    rcases Int.eq_ofNat_of_zero_le nonnegative with ⟨size, rfl⟩
    rcases Int.eq_ofNat_of_zero_le credit with ⟨count, rfl⟩
    rw [Int.natAbs_natCast, divHalfEven_eq_of_close count positive]
    · simp only [Decimal.signed, not_lt.mpr nonnegative, decide_false]
      rfl
    · zify
      linarith
    · zify
      linarith

/-- What is less than half a cent away from a number of cents is read as that number. -/
theorem Within.isCents_toDecimal (near : amount.Within error (cents / 100))
    (close : error < 1 / 200) : amount.toDecimal.IsCents cents := by
  rcases near with ⟨steps, rfl, apart⟩
  have scale : (0 : ℚ) < Binary64.one := by exact_mod_cast Binary64.one_pos
  have gap : 2 * |steps * 100 - Binary64.one * cents| < Binary64.one := by
    have gap := apart.trans_lt close
    rw [div_sub_div _ _ scale.ne' (by norm_num), abs_div,
      abs_of_pos (by positivity : (0 : ℚ) < Binary64.one * 100),
      div_lt_iff₀ (by positivity)] at gap
    have gap' : 2 * |(steps : ℚ) * 100 - Binary64.one * cents| < Binary64.one := by linarith
    exact_mod_cast gap'
  simp only [toDecimal, Decimal.ofCents, Binary64.hundredths, Decimal.isUnits_finite_iff]
  generalize Binary64.one = unit at *
  rw [signed_divHalfEven_eq gap]

/-- What is read is a number of cents. -/
theorem exists_isCents_toDecimal (finite : amount.toDecimal.isFinite = true) :
    ∃ cents, amount.toDecimal.IsCents cents := by
  cases amount with
  | finite steps => exact ⟨_, rfl, rfl⟩
  | infinite negative => cases finite

/-- Two numbers of cents that one amount is near to are the same. -/
theorem Within.cents_eq {otherCents : Int} (near : amount.Within error (cents / 100))
    (otherNear : amount.Within otherError (otherCents / 100))
    (close : error + otherError < 1 / 100) : cents = otherCents := by
  rcases near with ⟨steps, rfl, apart⟩
  rcases otherNear with ⟨same, same_eq, otherApart⟩
  obtain rfl : steps = same := Stored.finite.inj same_eq
  have gap : |(cents : ℚ) / 100 - otherCents / 100| < 1 / 100 := by
    calc
      _ = |((steps : ℚ) / Binary64.one - otherCents / 100)
            - (steps / Binary64.one - cents / 100)| := by congr 1; ring
      _ ≤ otherError + error := (abs_sub ..).trans (add_le_add otherApart apart)
      _ < 1 / 100 := by rwa [add_comm]
  rw [← sub_div, abs_div, abs_of_pos (by norm_num : (0 : ℚ) < 100),
    div_lt_div_iff_of_pos_right (by norm_num)] at gap
  have whole : |cents - otherCents| < 1 := by exact_mod_cast gap
  rw [Int.abs_lt_one_iff] at whole
  omega

/-- A number of cents that is read as a small number was stored almost exactly. -/
theorem within_toDecimal_of_isCents {number : Decimal} (counted : number.IsCents cents)
    (stored : ofDecimal? number = some amount) (range : bits ≤ 46)
    (finite : amount.toDecimal.isFinite = true) (small : |amount.toDecimal.value| < 2 ^ bits) :
    amount.Within (2 ^ bits / 2 ^ 54) amount.toDecimal.value := by
  by_cases few : cents.natAbs < 100 * 2 ^ bits
  · have bounded : |(cents : ℚ) / 100| < 2 ^ bits := by
      rw [abs_div, abs_of_pos (by norm_num : (0 : ℚ) < 100), ← Int.cast_abs, Int.abs_eq_natAbs,
        div_lt_iff₀ (by norm_num), mul_comm]
      exact_mod_cast few
    rcases exists_ofDecimal?_eq counted (by omega) bounded with ⟨same, same_eq, near⟩
    obtain rfl : amount = same := Option.some.inj (stored.symm.trans same_eq)
    have close : (2 : ℚ) ^ bits / 2 ^ 54 < 1 / 200 := by
      have power : (2 : ℚ) ^ bits ≤ 2 ^ 46 := pow_le_pow_right₀ (by norm_num) range
      calc
        (2 : ℚ) ^ bits / 2 ^ 54 ≤ 2 ^ 46 / 2 ^ 54 := by gcongr
        _ < 1 / 200 := by norm_num
    rwa [(Decimal.isCents_iff.mp (near.isCents_toDecimal close)).2]
  · exfalso
    rcases ofDecimal?_of_isCents counted with ⟨negative, sign, ⟨-, stored_eq⟩ | ⟨-, stored_eq⟩⟩
    · obtain rfl := Option.some.inj (stored.symm.trans stored_eq)
      have large := Binary64.le_hundredths_nearest (not_lt.mp few)
      rw [toDecimal, Decimal.natAbs_signed, Decimal.abs_value_ofCents,
        div_lt_iff₀ (by norm_num)] at small
      generalize Binary64.hundredths _ = read at large small
      rw [mul_comm] at large
      exact absurd large (not_le.mpr (by exact_mod_cast small))
    · obtain rfl := Option.some.inj (stored.symm.trans stored_eq)
      cases finite

end Stored

end Money

end Cashbook
