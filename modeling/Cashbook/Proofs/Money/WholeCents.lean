import Cashbook.Proofs.Money.Stored

/-!
# What counts as whole cents

An amount counts as whole cents where bringing it to two places leaves it the same.  Bringing it
there may fail, and then it does not count; no other failure is left.  What counts is settled by
the value alone: a hundred times the amount is a whole number of at most 28 digits.
-/

namespace Cashbook

namespace Decimal

variable {number cents : Decimal} {error : ArithmeticError}

/-! ## Two places -/

/-- Bringing a number to two places fails as an undefined operation only. -/
theorem eq_invalidOperation_of_toCents (failed : number.toCents = .error error) :
    error = .invalidOperation := by
  cases number with
  | finite negative coefficient exponent =>
      simp only [toCents] at failed
      split_ifs at failed <;> exact (Except.error.inj failed).symm
  | infinite negative => exact (Except.error.inj failed).symm
  | notNumber negative signaling payload =>
      simp only [toCents, passOn] at failed
      split_ifs at failed
      exact (Except.error.inj failed).symm

/-- What is brought to two places can be compared: neither it nor the result is signaling. -/
theorem isSignaling_of_toCents (brought : number.toCents = .ok cents) :
    number.isSignaling = false ∧ cents.isSignaling = false := by
  cases number with
  | finite negative coefficient exponent =>
      simp only [toCents] at brought
      split_ifs at brought <;> exact Except.ok.inj brought ▸ ⟨rfl, rfl⟩
  | infinite negative => cases brought
  | notNumber negative signaling payload =>
      simp only [toCents, passOn] at brought
      split_ifs at brought with refused
      exact Except.ok.inj brought ▸ ⟨Bool.eq_false_iff.mpr refused, rfl⟩

@[simp]
theorem isFinite_turned (number : Decimal) : number.turned.isFinite = number.isFinite := by
  cases number <;> rfl

@[simp]
theorem value_turned (number : Decimal) : number.turned.value = -number.value := by
  cases number with
  | finite negative coefficient exponent => cases negative <;> simp [turned, value, signed]
  | infinite negative => exact neg_zero.symm
  | notNumber negative signaling payload => exact neg_zero.symm

end Decimal

namespace Money

open Decimal

variable {amount : Decimal} {value : ℚ}

/-! ## The test -/

/-- Is a number a whole number of hundredths that 28 digits write? -/
def HasWholeCents (value : ℚ) : Prop :=
  (∃ cents : ℤ, 100 * value = cents) ∧ |100 * value| < 10 ^ 28

theorem hasWholeCents_neg_iff : HasWholeCents (-value) ↔ HasWholeCents value := by
  have turned : ∀ {size : ℚ}, HasWholeCents size → HasWholeCents (-size) := by
    rintro size ⟨⟨cents, whole⟩, small⟩
    refine ⟨⟨-cents, by rw [mul_neg, whole, Int.cast_neg]⟩, ?_⟩
    rwa [mul_neg, abs_neg]
  exact ⟨fun holds => neg_neg value ▸ turned holds, turned⟩

theorem isWholeCents_iff_hasWholeCents :
    isWholeCents amount = true ↔ amount.isFinite = true ∧ HasWholeCents amount.value := by
  have hundredfold : ∀ {cents : ℤ}, amount.value = cents / 100 ↔ 100 * amount.value = cents := by
    intro cents
    rw [eq_div_iff (by norm_num), mul_comm]
  have size : ∀ {cents : ℤ}, 100 * amount.value = cents →
      (|100 * amount.value| < 10 ^ 28 ↔ cents.natAbs < 10 ^ working.digits) := by
    intro cents whole
    rw [whole, ← Int.cast_abs, Int.abs_eq_natAbs, Int.cast_natCast]
    exact_mod_cast Iff.rfl
  rw [isWholeCents_iff]
  constructor
  · rintro ⟨cents, counted, few⟩
    rcases isCents_iff.mp counted with ⟨finite, value_eq⟩
    have whole := hundredfold.mp value_eq
    exact ⟨finite, ⟨cents, whole⟩, (size whole).mpr few⟩
  · rintro ⟨finite, ⟨cents, whole⟩, small⟩
    exact ⟨cents, isCents_iff.mpr ⟨finite, hundredfold.mpr whole⟩, (size whole).mp small⟩

/-- An amount of any form is told to be whole cents exactly when it is finite and a hundred times
its value is a whole number below `10 ^ 28`.  The test always ends: bringing an amount to two places
fails in the one way that counts as a no, and what is brought there can be compared.  So the form of
an amount does not matter, nor does its sign, where the sign is turned without rounding. -/
theorem isWholeCents_decides (amount : Decimal) :
    (isWholeCents amount = true ↔ amount.isFinite = true ∧ HasWholeCents amount.value)
    ∧ (∀ error, amount.toCents = .error error → error = .invalidOperation)
    ∧ (∀ cents, amount.toCents = .ok cents →
        amount.isSignaling = false ∧ cents.isSignaling = false)
    ∧ (∀ other : Decimal, other.isFinite = amount.isFinite → other.value = amount.value →
        isWholeCents other = isWholeCents amount)
    ∧ isWholeCents amount.turned = isWholeCents amount := by
  refine ⟨isWholeCents_iff_hasWholeCents, fun _ => eq_invalidOperation_of_toCents,
    fun _ => isSignaling_of_toCents, fun other finite same => ?_, ?_⟩
  · rw [Bool.eq_iff_iff, isWholeCents_iff_hasWholeCents, isWholeCents_iff_hasWholeCents, finite,
      same]
  · rw [Bool.eq_iff_iff, isWholeCents_iff_hasWholeCents, isWholeCents_iff_hasWholeCents,
      isFinite_turned, value_turned, hasWholeCents_neg_iff]

/-- Fifty is whole cents in every form and with either sign. -/
theorem isWholeCents_decides_fifty :
    isWholeCents (finite false 5 1) = true
      ∧ (finite false 5000000 (-5)).value = (finite false 5 1).value
      ∧ isWholeCents (finite false 5000000 (-5)) = isWholeCents (finite false 5 1)
      ∧ isWholeCents (finite true 5 1) = isWholeCents (finite false 5 1) := by
  have fifty : (finite false 5 1).value = 50 := by norm_num [value, signed]
  have same : (finite false 5000000 (-5)).value = (finite false 5 1).value := by
    norm_num [value, signed]
  have whole : HasWholeCents (finite false 5 1).value := by
    rw [fifty]
    exact ⟨⟨5000, by norm_num⟩, by norm_num⟩
  rcases isWholeCents_decides (finite false 5 1) with ⟨decided, -, -, others, turned⟩
  exact ⟨decided.mpr ⟨rfl, whole⟩, same, others (finite false 5000000 (-5)) rfl same, turned⟩

end Money

end Cashbook
