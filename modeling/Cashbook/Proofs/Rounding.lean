import Cashbook.Binary64
import Mathlib.Algebra.Order.Field.Basic
import Mathlib.Algebra.Ring.Int.Parity
import Mathlib.Data.Nat.Log
import Mathlib.Tactic.FieldSimp
import Mathlib.Tactic.Linarith
import Mathlib.Tactic.Positivity
import Mathlib.Tactic.Ring

/-!
# How far rounding goes

Rounding a quotient to a whole number moves it by at most a half and never past a whole number, and
it keeps the order of quotients.
The same holds for rounding to a size of 64 bits, where the sizes with at most 53 significant bits
take the place of the whole numbers.
-/

namespace Cashbook

/-! ## Whole numbers -/

variable {numerator denominator bound : Nat}

/-- A quotient is rounded down up to a half and up from a half on. -/
theorem divHalfEven_cases (numerator denominator : Nat) :
    divHalfEven numerator denominator = numerator / denominator
        ∧ 2 * (numerator % denominator) ≤ denominator
      ∨ divHalfEven numerator denominator = numerator / denominator + 1
        ∧ denominator ≤ 2 * (numerator % denominator) := by
  simp only [divHalfEven]
  split_ifs
  · exact .inl ⟨rfl, by omega⟩
  · exact .inr ⟨rfl, by omega⟩
  · exact .inl ⟨rfl, by omega⟩
  · exact .inr ⟨rfl, by omega⟩

theorem two_mul_divHalfEven_mul_le (numerator denominator : Nat) :
    2 * (divHalfEven numerator denominator * denominator) ≤ 2 * numerator + denominator := by
  have division := Nat.div_add_mod' numerator denominator
  rcases divHalfEven_cases numerator denominator with ⟨rounded, half⟩ | ⟨rounded, half⟩
  · rw [rounded]
    generalize numerator / denominator * denominator = whole at division ⊢
    omega
  · rw [rounded, Nat.add_one_mul (numerator / denominator)]
    generalize numerator / denominator * denominator = whole at division ⊢
    omega

theorem two_mul_le_divHalfEven_mul (numerator : Nat) (positive : 0 < denominator) :
    2 * numerator ≤ 2 * (divHalfEven numerator denominator * denominator) + denominator := by
  have division := Nat.div_add_mod' numerator denominator
  have remainder := Nat.mod_lt numerator positive
  rcases divHalfEven_cases numerator denominator with ⟨rounded, half⟩ | ⟨rounded, half⟩
  · rw [rounded]
    generalize numerator / denominator * denominator = whole at division ⊢
    omega
  · rw [rounded, Nat.add_one_mul (numerator / denominator)]
    generalize numerator / denominator * denominator = whole at division ⊢
    omega

/-- Rounding does not pass a whole number above. -/
theorem divHalfEven_le (positive : 0 < denominator) (above : numerator ≤ bound * denominator) :
    divHalfEven numerator denominator ≤ bound := by
  have division := Nat.div_add_mod numerator denominator
  have quotient : numerator / denominator ≤ bound :=
    Nat.div_le_of_le_mul (above.trans_eq (Nat.mul_comm ..))
  rcases divHalfEven_cases numerator denominator with ⟨rounded, _⟩ | ⟨rounded, half⟩
  · exact rounded.trans_le quotient
  · rw [rounded, Nat.succ_le_iff]
    apply quotient.lt_of_ne
    intro equal
    rw [equal] at division
    rw [Nat.mul_comm] at above
    omega

/-- Rounding does not pass a whole number below. -/
theorem le_divHalfEven (positive : 0 < denominator) (below : bound * denominator ≤ numerator) :
    bound ≤ divHalfEven numerator denominator := by
  have quotient : bound ≤ numerator / denominator := (Nat.le_div_iff_mul_le positive).mpr below
  rcases divHalfEven_cases numerator denominator with ⟨rounded, _⟩ | ⟨rounded, _⟩ <;> omega

/-- A quotient less than a half away from a whole number is rounded to it. -/
theorem divHalfEven_eq_of_close (bound : Nat) (positive : 0 < denominator)
    (above : 2 * numerator < 2 * (bound * denominator) + denominator)
    (below : 2 * (bound * denominator) < 2 * numerator + denominator) :
    divHalfEven numerator denominator = bound := by
  have upper := two_mul_divHalfEven_mul_le numerator denominator
  have lower := two_mul_le_divHalfEven_mul numerator positive
  apply le_antisymm
  · by_contra beyond
    have next : (bound + 1) * denominator ≤ divHalfEven numerator denominator * denominator :=
      Nat.mul_le_mul_right _ (by omega)
    rw [Nat.succ_mul] at next
    omega
  · by_contra beyond
    have next : (divHalfEven numerator denominator + 1) * denominator ≤ bound * denominator :=
      Nat.mul_le_mul_right _ (by omega)
    rw [Nat.succ_mul] at next
    omega

theorem abs_divHalfEven_sub_le (numerator : Nat) (positive : 0 < denominator) :
    |(divHalfEven numerator denominator : ℚ) - numerator / denominator| ≤ 1 / 2 := by
  have scale : (0 : ℚ) < denominator := by exact_mod_cast positive
  have upper : (2 * (divHalfEven numerator denominator * denominator) : ℚ)
      ≤ 2 * numerator + denominator := by
    exact_mod_cast two_mul_divHalfEven_mul_le numerator denominator
  have lower : (2 * numerator : ℚ)
      ≤ 2 * (divHalfEven numerator denominator * denominator) + denominator := by
    exact_mod_cast two_mul_le_divHalfEven_mul numerator positive
  rw [sub_div' scale.ne', abs_div, abs_of_pos scale, div_le_iff₀ scale, abs_le]
  constructor <;> linarith

/-- Only the value of a quotient counts. -/
theorem divHalfEven_mul_mul {factor : Nat} (positive : 0 < factor) :
    divHalfEven (numerator * factor) (denominator * factor)
      = divHalfEven numerator denominator := by
  have quotient : numerator * factor / (denominator * factor) = numerator / denominator :=
    Nat.mul_div_mul_right _ _ positive
  have remainder : numerator * factor % (denominator * factor)
      = numerator % denominator * factor := Nat.mul_mod_mul_right ..
  have left : 2 * (numerator % denominator * factor) < denominator * factor
      ↔ 2 * (numerator % denominator) < denominator := by
    rw [← Nat.mul_assoc, Nat.mul_lt_mul_right positive]
  have right : denominator * factor < 2 * (numerator % denominator * factor)
      ↔ denominator < 2 * (numerator % denominator) := by
    rw [← Nat.mul_assoc, Nat.mul_lt_mul_right positive]
  simp only [divHalfEven, quotient, remainder, left, right]

/-! ## The nearest whole number -/

/-- Is a whole number nearest to a value, and even if there are two? -/
def IsNearestEven (value : ℚ) (whole : ℤ) : Prop :=
  |value - whole| ≤ 1 / 2 ∧ (|value - whole| = 1 / 2 → Even whole)

section NearestEven

variable {value other : ℚ} {whole otherWhole : ℤ}

theorem isNearestEven_intCast (whole : ℤ) : IsNearestEven whole whole := by
  rw [IsNearestEven, sub_self, abs_zero]
  exact ⟨by norm_num, fun half => absurd half (by norm_num)⟩

theorem IsNearestEven.neg (nearest : IsNearestEven value whole) :
    IsNearestEven (-value) (-whole) := by
  have distance : |-value - ((-whole : ℤ) : ℚ)| = |value - whole| := by
    rw [← abs_neg, Int.cast_neg, neg_sub_neg, neg_sub, abs_sub_comm, abs_sub_comm]
  rw [IsNearestEven, distance, even_neg]
  exact nearest

/-- A larger value has no smaller number nearest to it. -/
theorem IsNearestEven.mono (nearest : IsNearestEven value whole)
    (otherNearest : IsNearestEven other otherWhole) (order : value ≤ other) :
    whole ≤ otherWhole := by
  by_contra past
  have next : (otherWhole : ℚ) + 1 ≤ whole := by exact_mod_cast not_le.mp past
  have below := abs_le.mp nearest.1
  have above := abs_le.mp otherNearest.1
  -- Only one value lies between them, the middle of two neighbours, which are not both even.
  have neighbours : (whole : ℚ) = otherWhole + 1 := by linarith
  have middle : value - whole = -(1 / 2) := by linarith
  have otherMiddle : other - otherWhole = 1 / 2 := by linarith
  have even := nearest.2 (by rw [middle]; norm_num [abs_of_pos])
  have otherEven := otherNearest.2 (by rw [otherMiddle]; norm_num [abs_of_pos])
  have successor : whole = otherWhole + 1 := by exact_mod_cast neighbours
  rw [successor, Int.even_add_one] at even
  exact even otherEven

theorem IsNearestEven.unique (nearest : IsNearestEven value whole)
    (again : IsNearestEven value otherWhole) : whole = otherWhole :=
  le_antisymm (nearest.mono again le_rfl) (again.mono nearest le_rfl)

/-- From the middle a quotient is rounded to an even number. -/
theorem even_divHalfEven (middle : 2 * (numerator % denominator) = denominator) :
    Even (divHalfEven numerator denominator) := by
  simp only [divHalfEven]
  rw [if_neg middle.not_lt, if_neg middle.not_gt, Nat.even_iff]
  split_ifs <;> omega

theorem isNearestEven_divHalfEven (numerator : Nat) (positive : 0 < denominator) :
    IsNearestEven (numerator / denominator) (divHalfEven numerator denominator) := by
  have scale : (0 : ℚ) < denominator := by exact_mod_cast positive
  refine ⟨by rw [abs_sub_comm]; exact abs_divHalfEven_sub_le numerator positive, fun half => ?_⟩
  rw [Int.even_coe_nat]
  refine even_divHalfEven ?_
  have division : ((numerator / denominator : Nat) : ℚ) * denominator
      + (numerator % denominator : Nat) = numerator := by
    exact_mod_cast Nat.div_add_mod' numerator denominator
  rw [Int.cast_natCast, abs_eq (by norm_num), div_sub' scale.ne', div_eq_iff scale.ne',
    div_eq_iff scale.ne'] at half
  have tie : (2 * (numerator % denominator : Nat) : ℚ) = denominator := by
    rcases divHalfEven_cases numerator denominator with ⟨rounded, below⟩ | ⟨rounded, above⟩
    · rw [rounded] at half
      have below : (2 * (numerator % denominator : Nat) : ℚ) ≤ denominator := by
        exact_mod_cast below
      rcases half with half | half <;> linarith
    · rw [rounded, Nat.cast_add, Nat.cast_one] at half
      have above : (denominator : ℚ) ≤ 2 * (numerator % denominator : Nat) := by
        exact_mod_cast above
      have remainder : ((numerator % denominator : Nat) : ℚ) < denominator := by
        exact_mod_cast Nat.mod_lt numerator positive
      rcases half with half | half <;> linarith
  exact_mod_cast tie

end NearestEven

namespace Binary64

/-! ## Sizes of 64 bits -/

/-- Is the number of steps a size that a binary number of 64 bits can have? -/
def IsSize (steps : Nat) : Prop :=
  ∃ digits place, digits < 2 ^ 53 ∧ steps = digits * 2 ^ place

theorem isSize_zero : IsSize 0 :=
  ⟨0, 0, by norm_num, rfl⟩

theorem excessBits_le {number places : Nat} (small : number < 2 ^ (places + 53)) :
    excessBits number ≤ places := by
  by_cases zero : number = 0
  · subst zero
    simp [excessBits]
  · have := (Nat.log2_lt zero).mpr small
    unfold excessBits
    omega

theorem lt_two_pow_excessBits (number : Nat) : number < 2 ^ (excessBits number + 53) := by
  have := Nat.lt_log2_self (n := number)
  apply this.trans_le
  apply Nat.pow_le_pow_right (by norm_num)
  unfold excessBits
  omega

theorem two_pow_le_of_excessBits_pos (number : Nat) (excess : 0 < excessBits number) :
    2 ^ (excessBits number + 52) ≤ number := by
  have nonzero : number ≠ 0 := by
    rintro rfl
    simp [excessBits] at excess
  have bits : excessBits number + 52 = number.log2 := by
    unfold excessBits at excess ⊢
    omega
  rw [bits]
  exact Nat.log2_self_le nonzero

/-- A size either has no digit below those that are kept, or lies below the numbers of so many
bits. -/
theorem IsSize.dvd_or_lt {steps : Nat} (size : IsSize steps) (places : Nat) :
    2 ^ places ∣ steps ∨ steps < 2 ^ (places + 52) := by
  rcases size with ⟨digits, place, few, rfl⟩
  by_cases order : places ≤ place
  · exact .inl (Dvd.dvd.mul_left (Nat.pow_dvd_pow 2 order) digits)
  · right
    calc
      digits * 2 ^ place < 2 ^ 53 * 2 ^ place := Nat.mul_lt_mul_of_pos_right few (by positivity)
      _ = 2 ^ (53 + place) := (Nat.pow_add ..).symm
      _ ≤ 2 ^ (places + 52) := Nat.pow_le_pow_right (by norm_num) (by omega)

theorem nearest_eq (numerator denominator : Nat) :
    nearest numerator denominator =
      divHalfEven numerator (denominator * 2 ^ excessBits (numerator / denominator))
        * 2 ^ excessBits (numerator / denominator) :=
  rfl

/-- Rounding to a size does not pass a size above. -/
theorem nearest_le (positive : 0 < denominator) (size : IsSize bound)
    (above : numerator ≤ bound * denominator) : nearest numerator denominator ≤ bound := by
  rw [nearest_eq]
  generalize unit_eq : excessBits (numerator / denominator) = excess
  have unit : 0 < denominator * 2 ^ excess := by positivity
  have multiple : 2 ^ excess ∣ bound := by
    by_cases none : excess = 0
    · simp [none]
    · apply (size.dvd_or_lt excess).resolve_right
      have large := two_pow_le_of_excessBits_pos (numerator / denominator) (by omega)
      have quotient : numerator / denominator ≤ bound :=
        Nat.div_le_of_le_mul (above.trans_eq (Nat.mul_comm ..))
      rw [unit_eq] at large
      exact (large.trans quotient).not_gt
  rcases multiple with ⟨units, rfl⟩
  have rounded : divHalfEven numerator (denominator * 2 ^ excess) ≤ units :=
    divHalfEven_le unit (by linarith)
  rw [Nat.mul_comm]
  exact Nat.mul_le_mul_left _ rounded

/-- Rounding to a size does not pass a size below. -/
theorem le_nearest (positive : 0 < denominator) (size : IsSize bound)
    (below : bound * denominator ≤ numerator) : bound ≤ nearest numerator denominator := by
  rw [nearest_eq]
  generalize unit_eq : excessBits (numerator / denominator) = excess
  have unit : 0 < denominator * 2 ^ excess := by positivity
  rcases size.dvd_or_lt excess with ⟨units, rfl⟩ | small
  · have rounded : units ≤ divHalfEven numerator (denominator * 2 ^ excess) :=
      le_divHalfEven unit (by linarith)
    rw [Nat.mul_comm]
    exact Nat.mul_le_mul_right _ rounded
  · by_cases none : excess = 0
    · subst none
      simpa using le_divHalfEven positive below
    · have large := two_pow_le_of_excessBits_pos (numerator / denominator) (by omega)
      rw [unit_eq] at large
      have rounded : 2 ^ 52 ≤ divHalfEven numerator (denominator * 2 ^ excess) := by
        apply le_divHalfEven unit
        calc
          2 ^ 52 * (denominator * 2 ^ excess) = 2 ^ (excess + 52) * denominator := by ring
          _ ≤ numerator := (Nat.le_div_iff_mul_le positive).mp large
      calc
        bound ≤ 2 ^ (excess + 52) := small.le
        _ = 2 ^ 52 * 2 ^ excess := by ring
        _ ≤ _ := Nat.mul_le_mul_right _ rounded

/-- What is rounded has a size of 64 bits. -/
theorem isSize_nearest (positive : 0 < denominator) :
    IsSize (nearest numerator denominator) := by
  rw [nearest_eq]
  generalize unit_eq : excessBits (numerator / denominator) = excess
  have unit : 0 < denominator * 2 ^ excess := by positivity
  have quotient := lt_two_pow_excessBits (numerator / denominator)
  rw [unit_eq, Nat.div_lt_iff_lt_mul positive] at quotient
  have rounded : divHalfEven numerator (denominator * 2 ^ excess) ≤ 2 ^ 53 := by
    apply divHalfEven_le unit
    calc
      numerator ≤ 2 ^ (excess + 53) * denominator := quotient.le
      _ = 2 ^ 53 * (denominator * 2 ^ excess) := by ring
  rcases rounded.lt_or_eq with few | full
  · exact ⟨_, _, few, rfl⟩
  · exact ⟨1, excess + 53, by norm_num, by rw [full]; ring⟩

/-- Only the value of a quotient counts. -/
theorem nearest_mul_mul (numerator denominator : Nat) {factor : Nat} (positive : 0 < factor) :
    nearest (numerator * factor) (denominator * factor) = nearest numerator denominator := by
  have quotient : numerator * factor / (denominator * factor) = numerator / denominator :=
    Nat.mul_div_mul_right _ _ positive
  have units : denominator * factor * 2 ^ excessBits (numerator / denominator)
      = denominator * 2 ^ excessBits (numerator / denominator) * factor := by ring
  rw [nearest_eq, nearest_eq, quotient, units, divHalfEven_mul_mul positive]

/-- A quotient of at most so many bits beyond the 53 that are kept moves by at most a half of the
last of them. -/
theorem abs_nearest_sub_le (places : Nat) (positive : 0 < denominator)
    (small : numerator < denominator * 2 ^ (places + 53)) :
    |(nearest numerator denominator : ℚ) - numerator / denominator| ≤ 2 ^ places / 2 := by
  rw [nearest_eq]
  have excess := excessBits_le (Nat.div_lt_of_lt_mul small)
  clear small
  generalize excessBits (numerator / denominator) = used at excess
  have unit : 0 < denominator * 2 ^ used := by positivity
  have rounded := abs_divHalfEven_sub_le numerator unit
  have power : (2 : ℚ) ^ used ≤ 2 ^ places := pow_le_pow_right₀ (by norm_num) excess
  have scale : (denominator : ℚ) ≠ 0 := by exact_mod_cast positive.ne'
  generalize divHalfEven numerator (denominator * 2 ^ used) = kept at rounded
  have value : ((kept * 2 ^ used : Nat) : ℚ) - numerator / denominator
      = ((kept : ℚ) - numerator / (denominator * 2 ^ used : Nat)) * 2 ^ used := by
    push_cast
    field_simp
  rw [value, abs_mul, abs_of_pos (by positivity : (0 : ℚ) < 2 ^ used)]
  calc
    |(kept : ℚ) - numerator / (denominator * 2 ^ used : Nat)| * 2 ^ used ≤ 1 / 2 * 2 ^ used := by
      gcongr
    _ ≤ 2 ^ places / 2 := by linarith

end Binary64

end Cashbook
