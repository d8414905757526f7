import Cashbook.Proofs.Decimal.Printing
import Cashbook.Proofs.Money.Numerals

/-!
# Amounts in reais

An amount is written with two places, rounded from its value and not from its form.  What is
written is read again as the number of cents nearest to the amount, and as the even one of two, so
an amount of whole cents is read as it was, and larger amounts are read as no smaller ones.
-/

namespace Cashbook

variable {coefficient : Nat} {exponent : Int}

namespace Decimal

/-! ## Hundredths -/

/-- Digits are dropped as the quotient by their power of ten is rounded, however many there are. -/
theorem dropDigits_eq_divHalfEven (coefficient digits : Nat) :
    dropDigits coefficient digits = divHalfEven coefficient (10 ^ digits) := by
  unfold dropDigits
  split_ifs with few
  · have small := lt_ten_pow_digitCount coefficient
    have tenth : 10 ^ (digitCount coefficient + 1) ≤ 10 ^ digits :=
      Nat.pow_le_pow_right (by norm_num) few
    rw [pow_succ] at tenth
    exact (divHalfEven_eq_of_close 0 (by positivity) (by omega) (by omega)).symm
  · rfl

/-- The hundredths of a size are the whole number nearest to a hundred times the size. -/
theorem isNearestEven_hundredths (coefficient : Nat) (exponent : Int) :
    IsNearestEven (100 * (coefficient * 10 ^ exponent)) (hundredths coefficient exponent) := by
  have hundred : (100 : ℚ) = (10 ^ (-2 : Int))⁻¹ := by norm_num
  unfold hundredths
  split_ifs with coarse
  · have aligned := ten_pow_mul_of_le coarse
    have exact : (100 : ℚ) * (coefficient * 10 ^ exponent)
        = ((appendZeros coefficient (exponent + 2).toNat : ℤ) : ℚ) := by
      rw [hundred, inv_mul_eq_iff_eq_mul₀ (by positivity), ← aligned, appendZeros_eq, Nat.pow_eq,
        sub_neg_eq_add]
      push_cast
      ring
    rw [exact]
    exact isNearestEven_intCast _
  · have aligned := ten_pow_mul_of_le (not_le.mp coarse).le
    have quotient : (100 : ℚ) * (coefficient * 10 ^ exponent)
        = coefficient / ((10 ^ (-2 - exponent).toNat : ℕ) : ℚ) := by
      rw [hundred, ← aligned]
      push_cast
      field_simp
    rw [quotient, dropDigits_eq_divHalfEven]
    exact isNearestEven_divHalfEven coefficient (by positivity)

/-- With their sign, the hundredths of a number are nearest to a hundred times its value. -/
theorem isNearestEven_signed_hundredths (negative : Bool) (coefficient : Nat) (exponent : Int) :
    IsNearestEven (100 * (finite negative coefficient exponent).value)
      (signed negative (hundredths coefficient exponent)) := by
  have size := isNearestEven_hundredths coefficient exponent
  rw [value, signed_mul]
  cases negative with
  | false => exact size
  | true =>
      rw [if_pos rfl, mul_neg]
      exact size.neg

/-- The sign of a number other than zero is that of its value. -/
theorem negative_eq_of_value_ne_zero {negative : Bool}
    (nonzero : (finite negative coefficient exponent).value ≠ 0) :
    negative = decide ((finite negative coefficient exponent).value < 0) := by
  have size : (0 : ℚ) ≤ coefficient * 10 ^ exponent := by positivity
  rw [value, signed_mul] at nonzero ⊢
  cases negative with
  | false => exact (decide_eq_false size.not_gt).symm
  | true =>
      rw [if_pos rfl, neg_ne_zero] at nonzero
      exact (decide_eq_true (neg_neg_of_pos (lt_of_le_of_ne size nonzero.symm))).symm

end Decimal

namespace Money

open Text Decimal

variable {number other : Decimal} {whole places : List Char} {separator : Char}

/-! ## Reading what is written -/

theorem signText_mem_signTexts (negative : Bool) : signText negative ∈ signTexts := by
  cases negative <;> decide

theorem decide_signText_eq (negative : Bool) : decide (signText negative = ['-']) = negative := by
  cases negative <;> rfl

/-- The currency mark and the blank in front of an amount do not count. -/
theorem trim_dropCurrency_inReais {sign body : List Char} (isSign : sign ∈ signTexts)
    (separated : IsSeparated body) :
    trim (dropCurrency ('R' :: '$' :: ' ' :: (sign ++ body))) = sign ++ body := by
  have shown : ∀ c ∈ sign ++ body, isBlank c = false := by
    intro c member
    rcases List.mem_append.mp member with inside | inside
    · rcases eq_of_mem_sign isSign inside with rfl | rfl <;> decide
    · exact separated.isBlank_eq c inside
  have trimmed : trim (' ' :: (sign ++ body)) = sign ++ body := by
    rw [← List.singleton_append, trim_append_left (List.forall_mem_singleton.mpr (by decide)),
      trim_of_isTight (isTight_of_forall shown)]
  have dropped := dropCurrency_of_isUnmarked (isUnmarked_of_trim trimmed isSign separated)
  calc trim (dropCurrency ('R' :: '$' :: ' ' :: (sign ++ body)))
      = trim (dropCurrency (' ' :: (sign ++ body))) := rfl
    _ = sign ++ body := by rw [dropped, trimmed]

/-- An amount in reais is read as its sign and its hundredths. -/
theorem readAmount_inReais_eq (negative : Bool) (few : hundredths coefficient exponent < 10 ^ 29) :
    readAmount (inReais (finite negative coefficient exponent)).toList
      = .ok (ofCents negative (hundredths coefficient exponent)) := by
  obtain ⟨whole, places, text_eq, digits, some_digit, more, count, value_eq⟩ :=
    exists_pointText_eq (hundredths coefficient exponent) 2
  have written : (inReais (finite negative coefficient exponent)).toList
      = 'R' :: '$' :: ' ' :: (signText negative ++ numeral '.' whole places) := by
    rw [inReais, toFixedText, text_eq, String.toList_append]
    simp only [String.toList_ofList]
    rfl
  have isSign := signText_mem_signTexts negative
  have separated := isSeparated_numeral digits more (.inl rfl : '.' = '.' ∨ '.' = ',')
  have in_range : ranged (decide (signText negative = ['-'])) (digitsValue (whole ++ places))
      (-(places.length : Int)) = .ok (ofCents negative (hundredths coefficient exponent)) := by
    rw [decide_signText_eq, value_eq, count]
    exact ranged_of_lt negative (-2) few (by decide) (by decide)
  rw [written]
  exact readAmount_of_isSplit (trim_dropCurrency_inReais isSign separated) isSign separated
    (isSplit_numeral digits more (.inl rfl)) (List.append_ne_nil_of_left_ne_nil some_digit _)
    in_range

/-- An amount has few hundredths if its value is small. -/
theorem hundredths_lt (small : (coefficient : ℚ) * 10 ^ exponent < 10 ^ 26) :
    hundredths coefficient exponent < 10 ^ 29 := by
  have nearest := isNearestEven_hundredths coefficient exponent
  have bounded := nearest.mono (isNearestEven_intCast (10 ^ 28)) (by push_cast; linarith)
  omega

/-- A finite amount in reais is read as the number of cents nearest to it. -/
theorem exists_readAmount_inReais (finite : number.isFinite = true)
    (small : |number.value| < 10 ^ 26) :
    ∃ read cents, readAmount (inReais number).toList = .ok read ∧ read.IsCents cents
      ∧ IsNearestEven (100 * number.value) cents := by
  cases number with
  | finite negative coefficient exponent =>
      rw [abs_value_finite] at small
      refine ⟨_, _, readAmount_inReais_eq negative (hundredths_lt small), ?_,
        isNearestEven_signed_hundredths negative coefficient exponent⟩
      exact isUnits_finite_iff.mpr rfl
  | infinite negative => cases finite
  | notNumber negative signaling payload => cases finite

/-- Numbers of one value other than zero are written alike. -/
theorem inReais_eq_of_value_eq (finite : number.isFinite = true)
    (otherFinite : other.isFinite = true) (same : other.value = number.value)
    (nonzero : number.value ≠ 0) : inReais other = inReais number := by
  cases number with
  | infinite negative => cases finite
  | notNumber negative signaling payload => cases finite
  | finite negative coefficient exponent =>
    cases other with
    | infinite negative => cases otherFinite
    | notNumber negative signaling payload => cases otherFinite
    | finite otherNegative otherCoefficient otherExponent =>
        have same_size : (otherCoefficient : ℚ) * 10 ^ otherExponent
            = coefficient * 10 ^ exponent := by
          rw [← abs_value_finite otherNegative, ← abs_value_finite negative, same]
        have same_hundredths : hundredths otherCoefficient otherExponent
            = hundredths coefficient exponent := by
          have nearest := isNearestEven_hundredths otherCoefficient otherExponent
          rw [same_size] at nearest
          exact_mod_cast nearest.unique (isNearestEven_hundredths coefficient exponent)
        have same_sign : otherNegative = negative := by
          rw [negative_eq_of_value_ne_zero nonzero,
            negative_eq_of_value_ne_zero (same.trans_ne nonzero), same]
        rw [inReais, inReais, toFixedText, toFixedText, same_hundredths, same_sign]

/-- An amount in reais is read as the number of cents that is nearest to it, and as the even one of
two: as the amount itself if that is a whole number of cents.  Amounts of one value other than zero
are written alike, and a larger amount is read as no smaller one. -/
theorem readAmount_inReais (finite : number.isFinite = true) (small : |number.value| < 10 ^ 26) :
    ∃ read cents, readAmount (inReais number).toList = .ok read ∧ read.IsCents cents
      ∧ IsNearestEven (100 * number.value) cents
      ∧ (isWholeCents number = true → read.value = number.value)
      ∧ ∀ other : Decimal, other.isFinite = true → |other.value| < 10 ^ 26 →
        (other.value = number.value → number.value ≠ 0 → inReais other = inReais number)
        ∧ (number.value ≤ other.value →
          ∃ otherRead, readAmount (inReais other).toList = .ok otherRead
            ∧ read.value ≤ otherRead.value) := by
  obtain ⟨read, cents, read_eq, counted, nearest⟩ := exists_readAmount_inReais finite small
  refine ⟨read, cents, read_eq, counted, nearest, fun whole => ?_,
    fun other otherFinite otherSmall => ⟨fun same nonzero =>
      inReais_eq_of_value_eq finite otherFinite same nonzero, fun order => ?_⟩⟩
  · obtain ⟨kept, exact, -⟩ := isWholeCents_iff.mp whole
    have hundredfold : 100 * number.value = kept := by
      rw [(isCents_iff.mp exact).2]
      ring
    rw [hundredfold] at nearest
    rw [counted.2, exact.2, nearest.unique (isNearestEven_intCast kept)]
  · obtain ⟨otherRead, otherCents, otherRead_eq, otherCounted, otherNearest⟩ :=
      exists_readAmount_inReais otherFinite otherSmall
    have cents_le := nearest.mono otherNearest (by linarith)
    refine ⟨otherRead, otherRead_eq, ?_⟩
    rw [counted.2, otherCounted.2]
    gcongr

theorem readAmount_inReais_half :
    (finite true 50005 (-3)).isFinite = true ∧ |(finite true 50005 (-3)).value| < 10 ^ 26
      ∧ (∃ read, readAmount (inReais (finite true 50005 (-3))).toList = .ok read
        ∧ read.IsCents (-5000)
        ∧ ∃ otherRead, readAmount (inReais (finite false 5 1)).toList = .ok otherRead
          ∧ read.value ≤ otherRead.value)
      ∧ inReais (finite true 500050 (-4)) = inReais (finite true 50005 (-3)) := by
  have value_eq : (finite true 50005 (-3)).value = -50005 / 1000 := by norm_num [value, signed]
  have same : (finite true 500050 (-4)).value = (finite true 50005 (-3)).value := by
    norm_num [value, signed]
  have other_eq : (finite false 5 1).value = 50 := by norm_num [value, signed]
  have small : |(finite true 50005 (-3)).value| < 10 ^ 26 := by
    rw [value_eq, abs_lt]
    constructor <;> norm_num
  have middle : IsNearestEven (100 * (finite true 50005 (-3)).value) (-5000) := by
    have half : (100 * (-50005 / 1000) - (-5000 : ℤ) : ℚ) = -(1 / 2) := by norm_num
    rw [IsNearestEven, value_eq, half, abs_neg]
    exact ⟨by norm_num, fun _ => by decide⟩
  obtain ⟨read, cents, read_eq, counted, nearest, -, others⟩ := readAmount_inReais rfl small
  rw [nearest.unique middle] at counted
  refine ⟨rfl, small, ⟨read, read_eq, counted, ?_⟩, ?_⟩
  · refine (others (finite false 5 1) rfl ?_).2 ?_
    · rw [other_eq, abs_lt]
      constructor <;> norm_num
    · rw [value_eq, other_eq]
      norm_num
  · exact (others (finite true 500050 (-4)) rfl (by rwa [same])).1 same (by rw [value_eq]; norm_num)

end Money

end Cashbook
