import Cashbook.Integer
import Cashbook.Proofs.Decimal.Reading

/-!
# The texts that denote whole numbers

A whole number is written by digits of any script.  One underscore may stand between two digits, a
sign before them, and white space around them; a numeral of more than 4300 digits denotes none.
Reading finds the number of exactly these texts.
-/

namespace Cashbook.Integer

open Text Decimal

/-- Does a text write a row of digits, where an underscore may stand between two of them? -/
inductive IsGrouped : List Char → List Char → Prop where
  | last {c : Char} (digit : isDigit c = true) : IsGrouped [c] [c]
  | next {c : Char} {rest digits : List Char} (digit : isDigit c = true)
      (more : IsGrouped rest digits) : IsGrouped (c :: rest) (c :: digits)
  | separated {c : Char} {rest digits : List Char} (digit : isDigit c = true)
      (more : IsGrouped rest digits) : IsGrouped (c :: '_' :: rest) (c :: digits)

/-- Does a text denote a whole number? -/
def Denotes (text : List Char) (number : Int) : Prop :=
  ∃ before sign numeral digits after,
    (∀ c ∈ before, isWhiteSpace c = true) ∧ (∀ c ∈ after, isWhiteSpace c = true)
      ∧ sign ∈ signTexts ∧ IsGrouped numeral digits ∧ digits.length ≤ maxDigits
      ∧ text = before ++ (sign ++ numeral) ++ after
      ∧ number = signed (decide (sign = ['-'])) (digitsValue digits)

variable {c : Char} {text rest digits : List Char} {number : Int} {afterDigit : Bool}

/-! ## Groups of digits -/

theorem IsGrouped.allDigits (grouped : IsGrouped text digits) :
    AllDigits digits ∧ digits ≠ [] := by
  induction grouped with
  | last digit => exact ⟨List.forall_mem_singleton.mpr digit, by simp⟩
  | next digit _ ih => exact ⟨List.forall_mem_cons.mpr ⟨digit, ih.1⟩, by simp⟩
  | separated digit _ ih => exact ⟨List.forall_mem_cons.mpr ⟨digit, ih.1⟩, by simp⟩

/-- What is written in groups begins with a digit. -/
theorem IsGrouped.exists_eq_cons (grouped : IsGrouped text digits) :
    ∃ c rest, text = c :: rest ∧ isDigit c = true := by
  cases grouped with
  | last digit => exact ⟨_, _, rfl, digit⟩
  | next digit => exact ⟨_, _, rfl, digit⟩
  | separated digit => exact ⟨_, _, rfl, digit⟩

/-- Nothing but digits and underscores stands in groups of digits. -/
theorem IsGrouped.isDigit_or_eq (grouped : IsGrouped text digits) :
    ∀ c ∈ text, isDigit c = true ∨ c = '_' := by
  induction grouped with
  | last digit => exact List.forall_mem_singleton.mpr (.inl digit)
  | next digit _ ih => exact List.forall_mem_cons.mpr ⟨.inl digit, ih⟩
  | separated digit _ ih =>
      exact List.forall_mem_cons.mpr ⟨.inl digit, List.forall_mem_cons.mpr ⟨.inr rfl, ih⟩⟩

/-- Only an underscore is left out. -/
theorem dropSeparatorsAfter_cons_of_ne (other : c ≠ '_') :
    dropSeparatorsAfter afterDigit (c :: rest)
      = (dropSeparatorsAfter (isDigit c) rest).map (c :: ·) := by
  rw [dropSeparatorsAfter.eq_def]
  exact if_neg other

/-- The underscores of groups are left out. -/
theorem IsGrouped.dropSeparatorsAfter_eq (grouped : IsGrouped text digits) (afterDigit : Bool) :
    dropSeparatorsAfter afterDigit text = some digits := by
  have no_mark : ∀ {c}, isDigit c = true → c ≠ '_' := fun digit => ne_of_isDigit digit (by decide)
  induction grouped generalizing afterDigit with
  | last digit =>
      rw [dropSeparatorsAfter_cons_of_ne (no_mark digit)]
      rfl
  | next digit _ ih =>
      rw [dropSeparatorsAfter_cons_of_ne (no_mark digit), ih]
      rfl
  | separated digit more ih =>
      rcases more.exists_eq_cons with ⟨first, others, rfl, first_digit⟩
      rw [dropSeparatorsAfter_cons_of_ne (no_mark digit), dropSeparatorsAfter, if_pos rfl, digit,
        first_digit, Bool.and_self, if_pos rfl, ih]
      rfl

/-- Where no digit is left, no underscore was left out. -/
theorem eq_of_dropSeparatorsAfter {left : List Char} (digitless : IsDigitless left)
    (dropped : dropSeparatorsAfter afterDigit text = some left) : text = left := by
  induction text generalizing afterDigit left with
  | nil => exact Option.some.inj dropped
  | cons c rest ih =>
      by_cases mark : c = '_'
      · subst mark
        cases rest with
        | nil => cases dropped
        | cons next others =>
            rw [dropSeparatorsAfter, if_pos rfl] at dropped
            split_ifs at dropped with between
            have next_digit : isDigit next = true := (Bool.and_eq_true _ _ ▸ between).2
            obtain rfl := ih digitless dropped
            exact absurd next_digit
              (Bool.not_eq_true _ ▸ (isDigitless_cons_iff.mp digitless).1)
      · rw [dropSeparatorsAfter_cons_of_ne mark, Option.map_eq_some_iff] at dropped
        rcases dropped with ⟨others, dropped, rfl⟩
        rw [ih (isDigitless_cons_iff.mp digitless).2 dropped]

/-- A text without underscores is left as it is. -/
theorem dropSeparatorsAfter_of_not_mem (absent : '_' ∉ text) :
    dropSeparatorsAfter afterDigit text = some text := by
  induction text generalizing afterDigit with
  | nil => rfl
  | cons c rest ih =>
      rw [List.mem_cons, not_or] at absent
      rw [dropSeparatorsAfter_cons_of_ne (Ne.symm absent.1), ih absent.2]
      rfl

/-- What digits are left of is written in groups, except that an underscore may stand first where
a digit stands before it. -/
theorem isGrouped_of_dropSeparatorsAfter (left : dropSeparatorsAfter afterDigit text = some digits)
    (all : AllDigits digits) (some_digit : digits ≠ []) :
    IsGrouped text digits
      ∨ afterDigit = true ∧ ∃ rest, text = '_' :: rest ∧ IsGrouped rest digits := by
  induction text generalizing afterDigit digits with
  | nil => exact absurd (Option.some.inj left).symm some_digit
  | cons c rest ih =>
      by_cases mark : c = '_'
      · subst mark
        cases rest with
        | nil => cases left
        | cons next others =>
            rw [dropSeparatorsAfter, if_pos rfl] at left
            split_ifs at left with between
            rcases ih left all some_digit with grouped | ⟨⟨⟩, -⟩
            exact .inr ⟨(Bool.and_eq_true _ _ ▸ between).1, _, rfl, grouped⟩
      · rw [dropSeparatorsAfter_cons_of_ne mark, Option.map_eq_some_iff] at left
        rcases left with ⟨others, left, rfl⟩
        obtain ⟨digit, all_others⟩ := List.forall_mem_cons.mp all
        by_cases none_left : others = []
        · subst none_left
          obtain rfl := eq_of_dropSeparatorsAfter (List.forall_mem_nil _) left
          exact .inl (.last digit)
        · rcases ih left all_others none_left with grouped | ⟨-, more, rfl, grouped⟩
          · exact .inl (.next digit grouped)
          · exact .inl (.separated digit grouped)

/-! ## Signs -/

/-- Signs stay where underscores are left out, and do not count as digits before them. -/
theorem dropSeparators_append {sign : List Char} (isSign : sign ∈ signTexts) :
    dropSeparators (sign ++ text) = (dropSeparators text).map (sign ++ ·) := by
  simp only [signTexts, List.mem_cons, List.not_mem_nil, or_false] at isSign
  rcases isSign with rfl | rfl | rfl
  · simp
  · exact dropSeparatorsAfter_cons_of_ne (by decide)
  · exact dropSeparatorsAfter_cons_of_ne (by decide)

/-- A text is a sign and what follows it. -/
theorem exists_sign_append (text : List Char) :
    ∃ sign ∈ signTexts, text = sign ++ (readSign text).2
      ∧ (readSign text).1 = decide (sign = ['-']) := by
  unfold readSign
  split
  · exact ⟨['-'], by simp [signTexts], rfl, rfl⟩
  · exact ⟨['+'], by simp [signTexts], rfl, rfl⟩
  · exact ⟨[], by simp [signTexts], rfl, rfl⟩

/-- What is left first and is no digit stood first. -/
theorem exists_of_dropSeparators_cons (mark : isDigit c = false)
    (left : dropSeparators text = some (c :: digits)) :
    ∃ rest, text = c :: rest ∧ dropSeparators rest = some digits := by
  cases text with
  | nil => cases left
  | cons first rest =>
      have plain : first ≠ '_' := by
        rintro rfl
        cases rest <;> cases left
      rw [dropSeparators, dropSeparatorsAfter_cons_of_ne plain, Option.map_eq_some_iff] at left
      rcases left with ⟨others, left, cons_eq⟩
      obtain ⟨rfl, rfl⟩ := List.cons.inj cons_eq
      rw [mark] at left
      exact ⟨rest, rfl, left⟩

/-- A sign that is left was there before. -/
theorem exists_of_dropSeparators {sign : List Char} (isSign : sign ∈ signTexts)
    (left : dropSeparators text = some (sign ++ digits)) :
    ∃ numeral, text = sign ++ numeral ∧ dropSeparators numeral = some digits := by
  simp only [signTexts, List.mem_cons, List.not_mem_nil, or_false] at isSign
  rcases isSign with rfl | rfl | rfl
  · exact ⟨text, rfl, left⟩
  · exact exists_of_dropSeparators_cons (by decide) left
  · exact exists_of_dropSeparators_cons (by decide) left

/-- What is left of a text is a sign and a numeral that stand between white space. -/
theorem exists_of_dropSeparators_trimBy {bare : List Char}
    (left : dropSeparators (trimBy isWhiteSpace text) = some bare) :
    ∃ before sign numeral after, (∀ c ∈ before, isWhiteSpace c = true)
      ∧ (∀ c ∈ after, isWhiteSpace c = true) ∧ sign ∈ signTexts
      ∧ text = before ++ (sign ++ numeral) ++ after
      ∧ dropSeparators numeral = some (readSign bare).2
      ∧ (readSign bare).1 = decide (sign = ['-']) := by
  rcases exists_eq_trimBy isWhiteSpace text with
    ⟨-, before, after, gone_before, gone_after, text_eq⟩
  rcases exists_sign_append bare with ⟨sign, isSign, bare_eq, negative⟩
  rw [bare_eq] at left
  rcases exists_of_dropSeparators isSign left with ⟨numeral, trimmed_eq, left_numeral⟩
  exact ⟨before, sign, numeral, after, gone_before, gone_after, isSign, trimmed_eq ▸ text_eq,
    left_numeral, negative⟩

/-- Between white space, a sign and a numeral are left of a text. -/
theorem dropSeparators_trimBy_surrounded {before sign numeral after : List Char}
    (gone_before : ∀ c ∈ before, isWhiteSpace c = true)
    (gone_after : ∀ c ∈ after, isWhiteSpace c = true) (isSign : sign ∈ signTexts)
    (visible : ∀ c ∈ numeral, isWhiteSpace c = false) :
    dropSeparators (trimBy isWhiteSpace (before ++ (sign ++ numeral) ++ after))
      = (dropSeparators numeral).map (sign ++ ·) := by
  have shown : ∀ c ∈ sign ++ numeral, isWhiteSpace c = false := by
    intro c member
    rcases List.mem_append.mp member with inside | inside
    · rcases eq_of_mem_sign isSign inside with rfl | rfl <;> decide
    · exact visible c inside
  rw [trimBy_surrounded gone_before gone_after
    (fun c head => shown c (List.mem_of_mem_head? head))
    (fun c last => shown c (List.mem_of_getLast? last)), dropSeparators_append isSign]

/-! ## Reading -/

/-- A number that is read has digits, and not too many. -/
theorem ofNumeral?_eq_some_iff : ofNumeral? text = some number ↔
    (readSign text).2 ≠ [] ∧ (readSign text).2.length ≤ maxDigits ∧ AllDigits (readSign text).2
      ∧ number = signed (readSign text).1 (digitsValue (readSign text).2) := by
  unfold ofNumeral?
  dsimp only
  split_ifs with unfit digits
  · simp only [false_iff]
    rintro ⟨some_digit, short, -⟩
    exact unfit.elim some_digit (Nat.not_lt.mpr short)
  · have all : AllDigits (readSign text).2 := List.all_eq_true.mp digits
    rw [not_or, not_lt] at unfit
    simp [unfit, all, eq_comm]
  · simp only [false_iff]
    rintro ⟨-, -, all, -⟩
    exact digits (List.all_eq_true.mpr all)

/-- A whole number is read exactly from the texts that denote it. -/
theorem read?_eq_some_iff : read? text = some number ↔ Denotes text number := by
  unfold read?
  rw [Option.bind_eq_some_iff]
  constructor
  · rintro ⟨bare, left, numbered⟩
    rcases ofNumeral?_eq_some_iff.mp numbered with ⟨some_digit, short, all, number_eq⟩
    rcases exists_of_dropSeparators_trimBy left with ⟨before, sign, numeral, after, gone_before,
      gone_after, isSign, text_eq, left_digits, negative⟩
    rcases isGrouped_of_dropSeparatorsAfter left_digits all some_digit with grouped | ⟨⟨⟩, -⟩
    exact ⟨before, sign, numeral, _, after, gone_before, gone_after, isSign, grouped, short,
      text_eq, negative ▸ number_eq⟩
  · rintro ⟨before, sign, numeral, digits, after, gone_before, gone_after, isSign, grouped, short,
      rfl, rfl⟩
    obtain ⟨all, some_digit⟩ := grouped.allDigits
    have visible : ∀ c ∈ numeral, isWhiteSpace c = false := by
      intro c inside
      rcases grouped.isDigit_or_eq c inside with digit | rfl
      · rw [← Bool.not_eq_true]
        exact fun white => Bool.false_ne_true
          ((isBlank_of_isDigit digit).symm.trans (isBlank_of_isWhiteSpace white))
      · decide
    have signed_eq : readSign (sign ++ digits) = (decide (sign = ['-']), digits) :=
      IsPointed.readSign_append (fun c member => .inl (all c member)) isSign
    refine ⟨sign ++ digits, ?_, ?_⟩
    · rw [dropSeparators_trimBy_surrounded gone_before gone_after isSign visible, dropSeparators,
        grouped.dropSeparatorsAfter_eq]
      rfl
    · rw [ofNumeral?_eq_some_iff, signed_eq]
      exact ⟨some_digit, short, all, rfl⟩

end Cashbook.Integer
