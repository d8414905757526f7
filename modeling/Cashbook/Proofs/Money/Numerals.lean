import Cashbook.Proofs.Money.Separators
import Cashbook.Proofs.Money.Stored

/-!
# Plain amounts

An amount that is a plain numeral is read the same with a point and with a comma before its places.
A word of a chat command is read so, too, but with a point only.
-/

namespace Cashbook.Money

open Text Decimal

variable {whole places : List Char} {separator : Char}

theorem isSeparated_numeral (digits : AllDigits whole) (more : AllDigits places)
    (isSeparator : separator = '.' ∨ separator = ',') :
    IsSeparated (numeral separator whole places) := by
  intro c member
  rcases mem_numeral member with inside | rfl | inside
  · exact .inl (digits c inside)
  · exact .inr isSeparator
  · exact .inl (more c inside)

/-- A plain numeral is split at its separator. -/
theorem isSplit_numeral (digits : AllDigits whole) (more : AllDigits places)
    (isSeparator : separator = '.' ∨ separator = ',') :
    IsSplit (numeral separator whole places) whole places := by
  by_cases none_place : places = []
  · rw [none_place, numeral_nil]
    exact .whole digits
  · have single : separator ∉ whole := by
      rcases isSeparator with rfl | rfl <;> exact digits.not_mem (by decide)
    have split := IsSplit.places isSeparator single more
    rwa [List.filter_eq_self.mpr digits, ← numeral_of_ne_nil none_place] at split

/-- Whatever its separator, a plain numeral has a point before its places in the end. -/
theorem normalizeSeparators_numeral (digits : AllDigits whole) (more : AllDigits places)
    (isSeparator : separator = ',' ∨ separator = '.') :
    normalizeSeparators (numeral separator whole places) = numeral '.' whole places := by
  have unseparated := isUnseparated_of_allDigits digits
  have last := isUnseparated_of_allDigits more
  by_cases none_place : places = []
  · rw [none_place, numeral_nil, numeral_nil, normalizeSeparators_of_isUnseparated unseparated]
  · rw [numeral_of_ne_nil none_place, numeral_of_ne_nil none_place]
    rcases isSeparator with rfl | rfl
    · rw [normalizeSeparators_comma last, unseparated.filter_ne (.inl rfl),
        unseparated.map_swapSeparator]
    · rw [normalizeSeparators_point last, unseparated.filter_ne (.inr rfl)]

/-- A plain numeral is read as an amount of the number that it writes. -/
theorem readAmount_numeral (digits : AllDigits whole) (some_digit : whole ≠ [])
    (more : AllDigits places) (isSeparator : separator = ',' ∨ separator = '.') :
    readAmount (numeral separator whole places)
      = (Decimal.read (numeral '.' whole places)).mapError
          (AmountError.unreadable (numeral '.' whole places)) := by
  have separates : isDigit separator = false ∧ isBlank separator = false := by
    rcases isSeparator with rfl | rfl <;> decide
  have tight := numeral_isTight digits more separates.2
  have unmarked := dropCurrency_of_isUnmarked
    (isSeparated_numeral digits more isSeparator.symm).isUnmarked
  have numeral_eq : numeralOf (numeral separator whole places) = numeral '.' whole places := by
    rw [numeralOf, trim_of_isTight tight, unmarked, trim_of_isTight tight,
      normalizeSeparators_numeral digits more isSeparator]
  rw [readAmount, trim_of_isTight tight, if_neg (numeral_ne_nil some_digit), numeral_eq]
  dsimp only
  rw [read_numeral digits some_digit more, ranged]
  split_ifs <;> rfl

/-- A word of a chat command that is a plain numeral with places is read with a point only. -/
theorem readCommandAmount_numeral (digits : AllDigits whole) (some_digit : whole ≠ [])
    (more : AllDigits places) :
    readCommandAmount (numeral '.' whole places)
      = match Decimal.read (numeral '.' whole places) with
        | .ok amount => if isWholeCents amount then .ok amount else .error .fractionOfCent
        | .error _ => .error .notPlain := by
  have plain : isPlain (numeral '.' whole places) = true := by
    unfold isPlain
    by_cases none_place : places = []
    · rw [none_place, numeral_nil, digits.takeWhile_eq, digits.dropWhile_eq]
      simp [some_digit]
    · have ends : ∀ c ∈ ('.' :: places).head?, isDigit c = false := by
        rintro c ⟨⟩
        decide
      rw [numeral_of_ne_nil none_place, digits.takeWhile_append ends,
        digits.dropWhile_append ends]
      simpa [some_digit, none_place, AllDigits] using more
  have kept : dropLineEnd (numeral '.' whole places) = numeral '.' whole places := by
    refine if_neg fun ends => ?_
    exact not_mem_numeral digits more (by decide) (by decide) (List.mem_of_getLast? ends)
  unfold readCommandAmount
  rw [kept]
  exact if_pos plain

/-! ## Words of commands -/

/-- A word that passes as a plain number is a plain numeral. -/
theorem exists_numeral_eq_of_isPlain {word : List Char} (plain : isPlain word = true) :
    ∃ whole places, AllDigits whole ∧ whole ≠ [] ∧ AllDigits places
      ∧ word = numeral '.' whole places := by
  unfold isPlain at plain
  dsimp only at plain
  rw [Bool.and_eq_true, Bool.not_eq_true', List.isEmpty_eq_false_iff] at plain
  obtain ⟨some_digit, behind⟩ := plain
  have digits : AllDigits (word.takeWhile isDigit) := fun c => List.mem_takeWhile_imp
  have word_eq := (@List.takeWhile_append_dropWhile _ isDigit word).symm
  split at behind
  next stop =>
    rw [stop, List.append_nil] at word_eq
    refine ⟨_, [], digits, some_digit, List.forall_mem_nil _, ?_⟩
    rwa [numeral_nil]
  next places stop =>
    rw [Bool.and_eq_true, Bool.not_eq_true', List.isEmpty_eq_false_iff, List.all_eq_true] at behind
    rw [stop] at word_eq
    refine ⟨_, places, digits, some_digit, behind.2, ?_⟩
    rwa [numeral_of_ne_nil behind.1]
  next => cases behind

/-- A positive amount is a whole number of cents if it is a natural one. -/
theorem isWholeCents_finite_iff {coefficient : Nat} {exponent : Int} :
    isWholeCents (finite false coefficient exponent) = true
      ↔ ∃ cents : Nat, cents < 10 ^ 28 ∧ (finite false coefficient exponent).IsCents cents := by
  rw [isWholeCents_iff]
  constructor
  · rintro ⟨cents, counted, few⟩
    have nonneg : (0 : ℚ) ≤ cents / 100 := by
      rw [← (isCents_iff.mp counted).2, value, signed, if_neg Bool.false_ne_true]
      positivity
    have natural : 0 ≤ cents := by
      have scaled : (0 : ℚ) ≤ cents := by linarith
      exact_mod_cast scaled
    rw [← Int.natAbs_of_nonneg natural] at counted
    exact ⟨cents.natAbs, few, counted⟩
  · rintro ⟨cents, few, counted⟩
    exact ⟨cents, counted, few⟩

/-- Does a word write an amount in digits with at most one point, which has digits on both sides,
and is the amount a whole number of fewer than `10 ^ 28` cents?  All digits of the word are kept. -/
def WritesAmount (word : List Char) (amount : Decimal) : Prop :=
  ∃ whole places, AllDigits whole ∧ whole ≠ [] ∧ AllDigits places ∧ word = numeral '.' whole places
    ∧ amount = finite false (digitsValue (whole ++ places)) (-(places.length : Int))
    ∧ ∃ cents : Nat, cents < 10 ^ 28 ∧ amount.IsCents cents

/-- A word of a command is read as an amount if it is a plain numeral that writes whole cents. -/
theorem readCommandAmount_eq_ok_iff {word : List Char} {amount : Decimal}
    (single_line : '\n' ∉ word) : readCommandAmount word = .ok amount
      ↔ ∃ whole places, AllDigits whole ∧ whole ≠ [] ∧ AllDigits places
        ∧ word = numeral '.' whole places
        ∧ ranged false (digitsValue (whole ++ places)) (-(places.length : Int)) = .ok amount
        ∧ isWholeCents amount = true := by
  have kept : dropLineEnd word = word := if_neg fun ends => single_line (List.mem_of_getLast? ends)
  constructor
  · intro read
    have plain : isPlain word = true := by
      by_contra other
      rw [readCommandAmount, kept, if_neg other] at read
      cases read
    obtain ⟨whole, places, digits, some_digit, more, rfl⟩ := exists_numeral_eq_of_isPlain plain
    refine ⟨whole, places, digits, some_digit, more, rfl, ?_⟩
    rw [readCommandAmount_numeral digits some_digit more, read_numeral digits some_digit more]
      at read
    split at read
    next found written =>
      split_ifs at read with cents
      cases read
      exact ⟨written, cents⟩
    next => cases read
  · rintro ⟨whole, places, digits, some_digit, more, rfl, written, cents⟩
    rw [readCommandAmount_numeral digits some_digit more, read_numeral digits some_digit more,
      written]
    exact if_pos cents

/-- In reach, a word of a command is read as the amount that it writes, and otherwise refused. -/
theorem readCommandAmount_eq_ok_iff_writesAmount {word : List Char} {amount : Decimal}
    (single_line : '\n' ∉ word) (reach : IsInReach word) :
    readCommandAmount word = .ok amount ↔ WritesAmount word amount := by
  rw [readCommandAmount_eq_ok_iff single_line]
  have in_range : ∀ {whole places}, word = numeral '.' whole places →
      ranged false (digitsValue (whole ++ places)) (-(places.length : Int))
        = .ok (finite false (digitsValue (whole ++ places)) (-(places.length : Int))) := by
    rintro whole places rfl
    exact ranged_of_isInReach false
      (lt_of_le_of_lt (length_le_length_numeral '.' whole places) reach) (by simp)
  constructor
  · rintro ⟨whole, places, digits, some_digit, more, word_eq, written, cents⟩
    rw [in_range word_eq, Except.ok.injEq] at written
    subst written
    exact ⟨whole, places, digits, some_digit, more, word_eq, rfl, isWholeCents_finite_iff.mp cents⟩
  · rintro ⟨whole, places, digits, some_digit, more, word_eq, rfl, cents⟩
    exact ⟨whole, places, digits, some_digit, more, word_eq, in_range word_eq,
      isWholeCents_finite_iff.mpr cents⟩

end Cashbook.Money
