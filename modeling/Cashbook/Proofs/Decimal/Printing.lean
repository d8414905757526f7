import Cashbook.Decimal.Printer
import Cashbook.Proofs.Decimal.Reading

/-!
# Numbers in positional notation

A number that is written with its point so many digits from the right is a plain numeral, with
zeros in front where there are too few digits.  Its digits write the number again.
-/

namespace Cashbook.Decimal

open Text

variable {coefficient : Nat}

theorem digitsValue_replicate_zero (count : Nat) (digits : List Char) :
    digitsValue (List.replicate count '0' ++ digits) = digitsValue digits := by
  induction count with
  | zero => rfl
  | succ count ih =>
      have zero : digitsValue ['0'] = 0 := by decide
      rw [List.replicate_succ, List.cons_append, ← List.singleton_append, digitsValue_append, ih,
        zero, Nat.zero_mul, Nat.zero_add]

/-- A number with its point so many digits from the right is a plain numeral of as many places. -/
theorem exists_pointText_eq (number places : Nat) :
    ∃ whole behind, pointText number places = numeral '.' whole behind
      ∧ AllDigits whole ∧ whole ≠ [] ∧ AllDigits behind ∧ behind.length = places
      ∧ digitsValue (whole ++ behind) = number := by
  set padded := List.replicate (places + 1 - (digitsText number).length) '0' ++ digitsText number
    with padded_eq
  have digits : AllDigits padded := by
    rw [padded_eq, allDigits_append_iff]
    refine ⟨fun c member => ?_, allDigits_toDigits number⟩
    rw [List.eq_of_mem_replicate member]
    decide
  have long : places < padded.length := by
    rw [padded_eq, List.length_append, List.length_replicate]
    omega
  have parts := List.take_append_drop (padded.length - places) padded
  have value : digitsValue padded = number := by
    rw [padded_eq, digitsValue_replicate_zero]
    exact digitsValue_toDigits number
  have both := digits
  rw [← parts, allDigits_append_iff] at both
  refine ⟨padded.take (padded.length - places), padded.drop (padded.length - places), ?_,
    both.1, ?_, both.2, ?_, by rw [parts, value]⟩
  · unfold pointText
    dsimp only
    rw [← padded_eq]
    by_cases none_place : places = 0
    · rw [if_pos none_place, none_place, Nat.sub_zero, List.drop_length, numeral_nil]
    · have some_place : padded.drop (padded.length - places) ≠ [] := by
        rw [ne_eq, List.drop_eq_nil_iff]
        omega
      rw [if_neg none_place, numeral_of_ne_nil some_place]
  · rw [ne_eq, List.take_eq_nil_iff, not_or]
    exact ⟨by omega, List.ne_nil_of_length_pos (by omega)⟩
  · rw [List.length_drop]
    omega

/-- A number in positional notation, without an exponent. -/
def positionalText : Decimal → List Char
  | finite negative coefficient exponent =>
      signText negative ++ pointText (appendZeros coefficient exponent.toNat) (-exponent).toNat
  | other => toText other

theorem positionalText_of_places (coefficient places : Nat) :
    positionalText (finite false coefficient (-(places : Int))) = pointText coefficient places := by
  have whole : (-(places : Int)).toNat = 0 := by omega
  rw [positionalText, whole, appendZeros_zero, neg_neg, Int.toNat_natCast]
  rfl

end Cashbook.Decimal
