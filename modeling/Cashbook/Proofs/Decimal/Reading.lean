import Cashbook.Decimal.Reader
import Cashbook.Proofs.Decimal.Value
import Cashbook.Proofs.Text
import Cashbook.Proofs.Text.Digit

/-!
# Reading plain numerals

A plain numeral is a row of digits, perhaps with more digits behind a point.  It is read as the
number that all its digits write, moved by as many places as stand behind the point.
-/

namespace Cashbook.Decimal

open Text

variable {whole places : List Char} {separator : Char}

/-! ## Rows of digits -/

theorem digitsValue_append (first second : List Char) :
    digitsValue (first ++ second)
      = digitsValue first * 10 ^ second.length + digitsValue second := by
  have shifted : ∀ (row : List Char) (start : Nat),
      row.foldl (fun value c => value * 10 + (digitValue? c).getD 0) start
        = start * 10 ^ row.length + digitsValue row := by
    intro row
    induction row with
    | nil => simp [digitsValue]
    | cons c row ih =>
        intro start
        rw [digitsValue, List.foldl_cons, List.foldl_cons, ih, ih, List.length_cons, pow_succ']
        ring
  rw [digitsValue, List.foldl_append, shifted]
  rfl

theorem digitsValue_lt (row : List Char) : digitsValue row < 10 ^ row.length := by
  induction row using List.reverseRecOn with
  | nil => exact Nat.one_pos
  | append_singleton row c ih =>
      have digit : digitsValue [c] < 10 := by
        rw [digitsValue, List.foldl_cons, List.foldl_nil]
        cases worth : digitValue? c with
        | none => simp
        | some value => simpa using digitValue?_lt worth
      rw [digitsValue_append, List.length_append, List.length_singleton, pow_one, pow_succ]
      omega

/-- The digits of a number write it. -/
theorem digitsValue_toDigits (number : Nat) : digitsValue (Nat.toDigits 10 number) = number := by
  have same : ∀ (row : List Char) (start : Nat), (∀ c ∈ row, c.isDigit = true) →
      row.foldl (fun value c => value * 10 + (digitValue? c).getD 0) start
        = Nat.ofDigitChars 10 row start := by
    intro row
    induction row with
    | nil => exact fun _ _ => rfl
    | cons c row ih =>
        intro start plain
        rw [List.forall_mem_cons] at plain
        rw [List.foldl_cons, Nat.ofDigitChars_cons, ih _ plain.2, digitValue?_of_plain plain.1,
          mul_comm]
        rfl
  rw [digitsValue, same _ _ fun _ member => Nat.isDigit_of_mem_toDigits (by decide) le_rfl member,
    Nat.ofDigitChars_ten_toDigits]

/-- A number of few digits in few places is in the range of what can be read. -/
theorem ranged_of_lt {coefficient count : Nat} (negative : Bool) (exponent : Int)
    (few : coefficient < 10 ^ count) (low : minReadExponent ≤ exponent)
    (high : exponent + count ≤ maxReadExponent) :
    ranged negative coefficient exponent = .ok (finite negative coefficient exponent) := by
  have top : ¬maxReadExponent
      < (if coefficient = 0 then exponent else leadingExponent coefficient exponent) := by
    split_ifs with zero
    · omega
    · have size : (coefficient : ℚ) * 10 ^ exponent < 10 ^ (exponent + count) := by
        rw [zpow_add₀ (by norm_num), mul_comm, zpow_natCast]
        have bound : (coefficient : ℚ) < 10 ^ count := by exact_mod_cast few
        gcongr
      have leading := (leadingExponent_lt_iff zero).mpr size
      omega
  unfold ranged
  exact if_neg (by omega)

/-- What is in range is kept as it is. -/
theorem eq_finite_of_ranged {negative : Bool} {coefficient : Nat} {exponent : Int}
    {number : Decimal} (in_range : ranged negative coefficient exponent = .ok number) :
    number = finite negative coefficient exponent := by
  unfold ranged at in_range
  dsimp only at in_range
  split_ifs at in_range
  · exact (Except.ok.inj in_range).symm
  · exact (Except.ok.inj in_range).symm

/-- Is a text too short for its digits alone to leave the range of what can be read?  Every text
that a memory holds is. -/
def IsInReach (text : List Char) : Prop :=
  text.length < 10 ^ 18

instance (text : List Char) : Decidable (IsInReach text) :=
  inferInstanceAs (Decidable (_ < _))

/-- A number whose digits are in reach is in the range of what can be read, wherever its point. -/
theorem ranged_of_isInReach {row : List Char} {count : Nat} (negative : Bool)
    (reach : IsInReach row) (inside : count ≤ row.length) :
    ranged negative (digitsValue row) (-(count : Int))
      = .ok (finite negative (digitsValue row) (-(count : Int))) := by
  unfold IsInReach at reach
  refine ranged_of_lt negative _ (digitsValue_lt row) ?_ ?_
  · unfold minReadExponent
    omega
  · unfold maxReadExponent
    omega

/-! ## Numerals -/

/-- The numeral with these places behind a separator, or without one if there are none. -/
def numeral (separator : Char) (whole places : List Char) : List Char :=
  if places = [] then whole else whole ++ separator :: places

theorem numeral_nil : numeral separator whole [] = whole :=
  if_pos rfl

theorem numeral_of_ne_nil (some_place : places ≠ []) :
    numeral separator whole places = whole ++ separator :: places :=
  if_neg some_place

theorem mem_numeral {c : Char} (member : c ∈ numeral separator whole places) :
    c ∈ whole ∨ c = separator ∨ c ∈ places := by
  by_cases none_place : places = []
  · rw [none_place, numeral_nil] at member
    exact .inl member
  · rwa [numeral_of_ne_nil none_place, List.mem_append, List.mem_cons] at member

/-- A character that is neither a digit nor the separator stands in no plain numeral. -/
theorem not_mem_numeral {c : Char} (digits : AllDigits whole) (more : AllDigits places)
    (mark : isDigit c = false) (other : c ≠ separator) : c ∉ numeral separator whole places := by
  intro member
  rcases mem_numeral member with inside | same | inside
  · exact digits.not_mem mark inside
  · exact other same
  · exact more.not_mem mark inside

theorem numeral_ne_nil (some_digit : whole ≠ []) : numeral separator whole places ≠ [] := by
  by_cases none_place : places = []
  · rwa [none_place, numeral_nil]
  · rw [numeral_of_ne_nil none_place]
    exact List.append_ne_nil_of_left_ne_nil some_digit _

/-- The digits of a numeral are no more than its characters. -/
theorem length_le_length_numeral (separator : Char) (whole places : List Char) :
    (whole ++ places).length ≤ (numeral separator whole places).length := by
  unfold numeral
  split_ifs with none_place
  · rw [none_place, List.append_nil]
  · simp

theorem isBlank_of_mem_numeral (digits : AllDigits whole) (more : AllDigits places)
    (visible : isBlank separator = false) :
    ∀ c ∈ numeral separator whole places, isBlank c = false := by
  intro c member
  rcases mem_numeral member with inside | rfl | inside
  · exact isBlank_of_isDigit (digits c inside)
  · exact visible
  · exact isBlank_of_isDigit (more c inside)

theorem numeral_isTight (digits : AllDigits whole) (more : AllDigits places)
    (visible : isBlank separator = false) : IsTight (numeral separator whole places) :=
  isTight_of_forall (isBlank_of_mem_numeral digits more visible)

/-- A row of digits writes a whole number. -/
theorem readNumeral_of_allDigits (negative : Bool) (digits : AllDigits whole)
    (some_digit : whole ≠ []) :
    readNumeral negative whole = ranged negative (digitsValue whole) 0 := by
  unfold readNumeral
  rw [digits.takeWhile_eq, digits.dropWhile_eq]
  simp [some_digit, readExponent]

theorem head_cons_of_mark {c : Char} (mark : isDigit c = false) (rest : List Char) :
    ∀ first ∈ (c :: rest).head?, isDigit first = false := by
  rintro _ ⟨⟩
  exact mark

/-- A point may stand before, behind or between the digits of a number, if there are some. -/
theorem readNumeral_point (negative : Bool) (digits : AllDigits whole) (more : AllDigits places)
    (some_digit : whole ++ places ≠ []) :
    readNumeral negative (whole ++ '.' :: places)
      = ranged negative (digitsValue (whole ++ places)) (-(places.length : Int)) := by
  have ends := head_cons_of_mark (by decide : isDigit '.' = false) places
  have both : ¬(whole = [] ∧ places = []) := by rwa [← List.append_eq_nil_iff]
  unfold readNumeral
  rw [digits.takeWhile_append ends, digits.dropWhile_append ends]
  simp [both, readExponent, more.takeWhile_eq, more.dropWhile_eq]

/-- A number has no second point. -/
theorem readNumeral_second_point (negative : Bool) (digits : AllDigits whole)
    (more : AllDigits places) (rest : List Char) :
    readNumeral negative (whole ++ '.' :: (places ++ '.' :: rest)) = .error .malformed := by
  have ends := fun rest => head_cons_of_mark (by decide : isDigit '.' = false) rest
  unfold readNumeral
  rw [digits.takeWhile_append (ends _), digits.dropWhile_append (ends _)]
  simp [readExponent, more.takeWhile_append (ends _), more.dropWhile_append (ends _)]

/-- The exact number that a plain numeral writes, if its exponent is in range. -/
theorem readNumeral_numeral (digits : AllDigits whole) (some_digit : whole ≠ [])
    (more : AllDigits places) :
    readNumeral false (numeral '.' whole places)
      = ranged false (digitsValue (whole ++ places)) (-(places.length : Int)) := by
  by_cases none_place : places = []
  · rw [none_place, numeral_nil, List.append_nil, readNumeral_of_allDigits false digits some_digit]
    rfl
  · rw [numeral_of_ne_nil none_place]
    exact readNumeral_point false digits more (List.append_ne_nil_of_left_ne_nil some_digit _)

/-! ## Signs and names -/

/-- Is a text nothing but digits and points? -/
def IsPointed (text : List Char) : Prop :=
  ∀ c ∈ text, isDigit c = true ∨ c = '.'

theorem isPointed_numeral (digits : AllDigits whole) (more : AllDigits places) :
    IsPointed (numeral '.' whole places) := by
  intro c member
  rcases mem_numeral member with inside | point | inside
  · exact .inl (digits c inside)
  · exact .inr point
  · exact .inl (more c inside)

/-- The signs that may stand before a number. -/
def signTexts : List (List Char) :=
  [[], ['+'], ['-']]

theorem eq_of_mem_sign {sign : List Char} {c : Char} (isSign : sign ∈ signTexts)
    (member : c ∈ sign) : c = '+' ∨ c = '-' := by
  simp only [signTexts, List.mem_cons, List.not_mem_nil, or_false] at isSign
  rcases isSign with rfl | rfl | rfl
  · cases member
  · exact .inl (List.mem_singleton.mp member)
  · exact .inr (List.mem_singleton.mp member)

/-- A sign is told apart from a text that begins with none. -/
theorem readSign_append {sign text : List Char} (isSign : sign ∈ signTexts)
    (head : ∀ c ∈ text.head?, c ≠ '+' ∧ c ≠ '-') :
    readSign (sign ++ text) = (decide (sign = ['-']), text) := by
  simp only [signTexts, List.mem_cons, List.not_mem_nil, or_false] at isSign
  rcases isSign with rfl | rfl | rfl
  · rw [List.nil_append]
    unfold readSign
    split
    next rest => exact absurd rfl (head _ rfl).2
    next rest => exact absurd rfl (head _ rfl).1
    next => rfl
  · rfl
  · rfl

section Pointed

variable {text sign : List Char} (pointed : IsPointed text)

include pointed

/-- Digits and points are no signs. -/
theorem IsPointed.readSign_append (isSign : sign ∈ signTexts) :
    readSign (sign ++ text) = (decide (sign = ['-']), text) := by
  refine Decimal.readSign_append isSign fun c head => ?_
  rcases pointed c (List.mem_of_mem_head? head) with digit | rfl
  · exact ⟨ne_of_isDigit digit (by decide), ne_of_isDigit digit (by decide)⟩
  · decide

/-- A number that begins with a digit or a point has no name. -/
theorem IsPointed.no_name (negative : Bool) :
    isInfinityName text = false ∧ readNotNumber? negative text = none := by
  cases text with
  | nil => exact ⟨rfl, rfl⟩
  | cons c rest =>
      obtain ⟨small, no_letter⟩ : c.toLower = c ∧ c ≠ 'i' ∧ c ≠ 's' ∧ c ≠ 'n' := by
        rcases pointed c List.mem_cons_self with digit | rfl
        · exact ⟨toLower_of_isDigit digit, ne_of_isDigit digit (by decide),
            ne_of_isDigit digit (by decide), ne_of_isDigit digit (by decide)⟩
        · decide
      simp [isInfinityName, readNotNumber?, small, no_letter]

/-- Digits and points are read as a number, with or without a sign before them. -/
theorem IsPointed.read_append (isSign : sign ∈ signTexts) :
    read (sign ++ text) = readNumeral (decide (sign = ['-'])) text := by
  have shown : ∀ c ∈ sign ++ text, isBlank c = false ∧ c ≠ '_' := by
    intro c member
    rcases List.mem_append.mp member with inside | inside
    · rcases eq_of_mem_sign isSign inside with rfl | rfl <;> decide
    · rcases pointed c inside with digit | rfl
      · exact ⟨isBlank_of_isDigit digit, ne_of_isDigit digit (by decide)⟩
      · decide
  have kept : (sign ++ text).filter (· != '_') = sign ++ text := by
    rw [List.filter_eq_self]
    exact fun c member => bne_iff_ne.mpr (shown c member).2
  obtain ⟨no_infinity, some_number⟩ := pointed.no_name (decide (sign = ['-']))
  rw [read, trim_of_isTight (isTight_of_forall fun c member => (shown c member).1), kept,
    pointed.readSign_append isSign]
  dsimp only
  rw [no_infinity, some_number]
  rfl

end Pointed

/-- A plain numeral is read as the number that it writes. -/
theorem read_numeral (digits : AllDigits whole) (some_digit : whole ≠ [])
    (more : AllDigits places) :
    read (numeral '.' whole places)
      = ranged false (digitsValue (whole ++ places)) (-(places.length : Int)) := by
  have read_eq := (isPointed_numeral digits more).read_append (by decide : [] ∈ signTexts)
  rw [List.nil_append] at read_eq
  rw [read_eq]
  exact readNumeral_numeral digits some_digit more

end Cashbook.Decimal
