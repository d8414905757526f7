import Cashbook.Proofs.Money.Stored

/-!
# Amounts that are read as they were written

An amount is read as it was written exactly when it is a number of cents and the nearest binary
number is still nearest to that number of cents.  Below `2 ^ 46` all numbers of cents are read
so, and right above it some are not.
-/

namespace Cashbook.Money

variable {amount read : Decimal} {stored : Stored} {cents : Int}

/-- Is the amount a number of cents that the binary number nearest to it is rounded to? -/
def IsReadBack (amount : Decimal) : Prop :=
  ∃ cents : Int, amount.IsCents cents
    ∧ Binary64.nearest (cents.natAbs * Binary64.one) 100 < Binary64.limit
    ∧ Binary64.hundredths (Binary64.nearest (cents.natAbs * Binary64.one) 100) = cents.natAbs

/-- What equals a number of cents is that number of cents. -/
theorem order?_eq_iff (finite : amount.isFinite = true) (counted : read.IsCents cents) :
    amount.order? read = some .eq ↔ amount.IsCents cents := by
  rw [Decimal.order?_of_isFinite finite counted.1, Option.some.injEq, compare_eq_iff_eq,
    counted.2, Decimal.IsCents, Decimal.IsUnits, finite]
  simp

namespace Stored

/-- What is read has the sign of what is stored. -/
theorem isCents_toDecimal_signed (negative : Bool) (size : Nat) :
    (finite (Decimal.signed negative size)).toDecimal.IsCents
      (Decimal.signed negative (Binary64.hundredths size)) := by
  have turned : Decimal.signed (decide (Decimal.signed negative size < 0))
      (Binary64.hundredths size) = Decimal.signed negative (Binary64.hundredths size) := by
    by_cases nothing : size = 0
    · have none_read : Binary64.hundredths size ≤ 0 :=
        divHalfEven_le Binary64.one_pos (by rw [nothing, zero_mul, zero_mul])
      rw [Nat.le_zero.mp none_read]
      simp [Decimal.signed]
    · generalize Binary64.hundredths size = read
      cases negative <;> simp [Decimal.signed, nothing]
  refine ⟨rfl, ?_⟩
  rw [toDecimal, Decimal.natAbs_signed, Decimal.ofCents, Decimal.value, turned]

/-- An amount is read as it was written exactly when it is kept. -/
theorem order?_toDecimal_eq_iff (finite : amount.isFinite = true)
    (stored_eq : ofDecimal? amount = some stored) :
    amount.order? stored.toDecimal = some .eq ↔ IsReadBack amount := by
  constructor
  · intro same
    have bounded : stored.toDecimal.isFinite = true := by
      cases stored with
      | finite steps => rfl
      | infinite negative =>
          cases amount with
          | finite => cases negative <;> cases same
          | infinite => cases finite
          | notNumber => cases finite
    rcases exists_isCents_toDecimal bounded with ⟨cents, read⟩
    have counted := (order?_eq_iff finite read).mp same
    rcases ofDecimal?_of_isCents counted with ⟨negative, sign, ⟨limited, same_eq⟩ | ⟨-, same_eq⟩⟩
    · obtain rfl := Option.some.inj (stored_eq.symm.trans same_eq)
      have size_eq := congrArg Int.natAbs (read.unique (isCents_toDecimal_signed _ _))
      rw [Decimal.natAbs_signed] at size_eq
      exact ⟨cents, counted, limited, size_eq.symm⟩
    · obtain rfl := Option.some.inj (stored_eq.symm.trans same_eq)
      cases bounded
  · rintro ⟨cents, counted, limited, kept⟩
    rcases ofDecimal?_of_isCents counted with ⟨negative, sign, ⟨-, same_eq⟩ | ⟨large, -⟩⟩
    · obtain rfl := Option.some.inj (stored_eq.symm.trans same_eq)
      have read := isCents_toDecimal_signed negative
        (Binary64.nearest (cents.natAbs * Binary64.one) 100)
      rw [kept, sign] at read
      exact (order?_eq_iff finite read).mpr counted
    · exact absurd limited (not_lt.mpr large)

end Stored

/-- Below `2 ^ 46` an amount is kept exactly when it is a whole number of cents. -/
theorem isReadBack_iff_of_small (small : |amount.value| < 2 ^ 46) :
    IsReadBack amount ↔ isWholeCents amount = true := by
  rw [isWholeCents_iff]
  constructor
  · rintro ⟨cents, counted, -⟩
    refine ⟨cents, counted, ?_⟩
    rw [(Decimal.isCents_iff.mp counted).2, abs_div, abs_of_pos (by norm_num : (0 : ℚ) < 100),
      div_lt_iff₀ (by norm_num), ← Int.cast_abs, Int.abs_eq_natAbs] at small
    have few : cents.natAbs < 2 ^ 46 * 100 := by exact_mod_cast small
    rw [show Decimal.working.digits = 28 from rfl]
    omega
  · rintro ⟨cents, counted, -⟩
    rw [(Decimal.isCents_iff.mp counted).2] at small
    rcases Stored.exists_ofDecimal?_eq counted (by norm_num) small with ⟨stored, stored_eq, near⟩
    rw [← Stored.order?_toDecimal_eq_iff counted.1 stored_eq,
      order?_eq_iff counted.1 (near.isCents_toDecimal (by norm_num))]
    exact counted

end Cashbook.Money
