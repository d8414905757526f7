import Cashbook.Chat.FreeText
import Cashbook.Proofs.Money.Numerals

/-!
# Numbers in sentences

The first digit of a sentence begins its money expression, whatever stands before it.  Its number
is a numeral, which ends where neither digits nor a separator with digits behind it follow.
-/

namespace Cashbook.Chat

open Text Money Decimal

variable {text rest front back tail whole places : List Char} {separator : Char}

/-! ## Currency marks -/

/-- Is a text a word in any letter case? -/
def Writes (word text : List Char) : Prop :=
  List.Forall₂ (fun letter c => writesLetter letter c = true) word text

theorem writesLetter_r_iff {c : Char} : writesLetter 'r' c = true ↔ c = 'r' ∨ c = 'R' := by
  constructor
  · intro writes
    have small : c.toLower = 'r' := by simpa [writesLetter] using writes
    have plain : IsPlain c.toLower := by
      rw [small]
      decide
    exact of_isPlain_toLower (fun c => c.toLower = 'r' → c = 'r' ∨ c = 'R') (by decide +kernel)
      plain small
  · rintro (rfl | rfl) <;> decide

/-- What is cut off the front of a text is the word. -/
theorem exists_eq_append_of_dropWord? {word : List Char}
    (dropped : dropWord? word text = some rest) :
    ∃ name, text = name ++ rest ∧ Writes word name := by
  induction word generalizing text with
  | nil =>
      rw [dropWord?, Option.some.injEq] at dropped
      exact ⟨[], dropped, .nil⟩
  | cons letter word ih =>
      cases text with
      | nil => cases dropped
      | cons c behind =>
          rw [dropWord?] at dropped
          split_ifs at dropped with writes
          obtain ⟨name, rfl, written⟩ := ih dropped
          exact ⟨c :: name, rfl, .cons writes written⟩

/-- A currency mark is a letter and a dollar sign. -/
theorem exists_eq_append_of_dropCurrencyMark? (dropped : dropCurrencyMark? text = some rest) :
    ∃ letter, (letter = 'r' ∨ letter = 'R') ∧ text = letter :: '$' :: rest := by
  unfold dropCurrencyMark? at dropped
  split at dropped
  next behind cut =>
    cases dropped
    obtain ⟨name, rfl, written⟩ := exists_eq_append_of_dropWord? cut
    cases written with
    | cons writes others =>
        cases others
        exact ⟨_, writesLetter_r_iff.mp writes, rfl⟩
  next => cases dropped

/-! ## Where a money expression begins -/

theorem head_of_startsWithDigit (begins : startsWithDigit back = true) :
    ∃ first rest, back = first :: rest ∧ isDigit first = true := by
  cases back with
  | nil => cases begins
  | cons first rest => exact ⟨first, rest, rfl, begins⟩

theorem startsWithDigit_append (digits : AllDigits whole) (some_digit : whole ≠ [])
    (rest : List Char) : startsWithDigit (whole ++ rest) = true := by
  obtain ⟨first, others, rfl⟩ := List.exists_cons_of_ne_nil some_digit
  exact digits first List.mem_cons_self

/-- Behind blanks only, a number is where the blanks end. -/
theorem dropWhile_isBlank_of_digitless (digitless : IsDigitless front)
    (begins : startsWithDigit back = true) :
    (front ++ back).dropWhile isBlank = back
      ∨ startsWithDigit ((front ++ back).dropWhile isBlank) = false := by
  induction front with
  | nil =>
      rcases head_of_startsWithDigit begins with ⟨first, rest, rfl, digit⟩
      exact .inl (by simp [isBlank_of_isDigit digit])
  | cons c front ih =>
      rw [isDigitless_cons_iff] at digitless
      cases blank : isBlank c with
      | true => simpa [blank] using ih digitless.2
      | false => exact .inr (by simp [blank, startsWithDigit, digitless.1])

/-- A currency mark before the first digit of a text leads to that digit or to no number. -/
theorem moneyFront?_of_digitless {c : Char} (no_digit : isDigit c = false)
    (digitless : IsDigitless front) (begins : startsWithDigit back = true) :
    moneyFront? (c :: (front ++ back)) = none
      ∨ moneyFront? (c :: (front ++ back)) = some back := by
  unfold moneyFront?
  rw [startsWithDigit, no_digit, if_neg Bool.false_ne_true]
  cases marked : dropCurrencyMark? (c :: (front ++ back)) with
  | none => exact .inl rfl
  | some rest =>
      obtain ⟨behind, rfl, behind_digitless⟩ :
          ∃ behind, rest = behind ++ back ∧ IsDigitless behind := by
        rcases exists_eq_append_of_dropCurrencyMark? marked with ⟨letter, -, text_eq⟩
        rw [List.cons.injEq] at text_eq
        cases front with
        | nil =>
            -- The dollar sign is no digit, so the number does not begin with it.
            rw [List.nil_append] at text_eq
            rw [text_eq.2] at begins
            have sign : isDigit '$' = false := by decide
            exact absurd (sign.symm.trans begins) Bool.false_ne_true
        | cons sign behind =>
            rw [List.cons_append, List.cons.injEq] at text_eq
            rw [isDigitless_cons_iff] at digitless
            exact ⟨behind, text_eq.2.2.symm, digitless.2⟩
      dsimp only
      rcases dropWhile_isBlank_of_digitless behind_digitless begins with same | other
      · rw [same, if_pos begins]
        exact .inr rfl
      · rw [other, if_neg Bool.false_ne_true]
        exact .inl rfl

/-- The first digit of a text begins the number of its money expression. -/
theorem find?_of_digitless (digitless : IsDigitless front)
    (begins : startsWithDigit back = true) :
    ∃ money, MoneyExpression.find? (front ++ back) = some money
      ∧ money.number = (takeNumber back).1 := by
  induction front with
  | nil =>
      rcases head_of_startsWithDigit begins with ⟨first, rest, rfl, -⟩
      rw [List.nil_append, MoneyExpression.find?, moneyFront?, if_pos begins]
      exact ⟨_, rfl, rfl⟩
  | cons c front ih =>
      rw [isDigitless_cons_iff] at digitless
      rw [List.cons_append, MoneyExpression.find?]
      rcases moneyFront?_of_digitless digitless.1 digitless.2 begins with without | here
      · rcases ih digitless.2 with ⟨money, found, number_eq⟩
        rw [without, found]
        exact ⟨_, rfl, number_eq⟩
      · rw [here]
        exact ⟨_, rfl, rfl⟩

/-- What a sentence tells depends on the number that begins with its first digit; the other words
choose the description and the category only. -/
theorem exists_interpret_eq (digitless : IsDigitless front)
    (begins : startsWithDigit back = true) (categories : List Category)
    (rules : List KeywordRule) :
    ∃ money : MoneyExpression, money.number = (takeNumber back).1 ∧ ∃ description category,
      interpret (front ++ back) categories rules
        = (amountOf money).map fun amount =>
            { amount := amount, description := description, category := category } := by
  rcases find?_of_digitless digitless begins with ⟨money, found, number⟩
  refine ⟨money, number, ?_⟩
  rw [interpret, found]
  dsimp only
  cases amountOf money with
  | ok amount => exact ⟨_, _, rfl⟩
  | error complaint => exact ⟨"", none, rfl⟩

/-! ## Where a number ends -/

/-- Does a number not go on in a text, with neither digits nor a separator before digits? -/
def EndsNumber (text : List Char) : Prop :=
  startsWithDigit text = false
    ∧ ∀ c rest, text = c :: rest → c = '.' ∨ c = ',' → startsWithDigit rest = false

theorem EndsNumber.head (ends : EndsNumber tail) : ∀ c ∈ tail.head?, isDigit c = false := by
  cases tail with
  | nil => nofun
  | cons c rest =>
      rintro _ ⟨⟩
      exact ends.1

theorem EndsNumber.goesOn (ends : EndsNumber tail) : goesOn tail = false := by
  unfold Chat.goesOn
  split
  next rest => exact ends.2 _ _ rfl (.inl rfl)
  next => exact ends.1

theorem EndsNumber.takeGroups (ends : EndsNumber tail) : takeGroups tail = ([], tail) := by
  unfold Chat.takeGroups
  split
  next first second third rest =>
    have no_digit : isDigit first = false := ends.2 _ _ rfl (.inl rfl)
    rw [no_digit]
    rfl
  next => rfl

theorem EndsNumber.takePlaces (ends : EndsNumber tail) {isSeparator : Char → Bool}
    (separators : ∀ c, isSeparator c = true → c = '.' ∨ c = ',') :
    takePlaces isSeparator tail = ([], tail) := by
  cases tail with
  | nil => rfl
  | cons c rest =>
      have none_more : ¬(isSeparator c && startsWithDigit rest) = true := by
        intro both
        rw [Bool.and_eq_true] at both
        exact Bool.false_ne_true ((ends.2 c rest rfl (separators c both.1)).symm.trans both.2)
      exact if_neg none_more

theorem endsNumber_nil : EndsNumber [] :=
  ⟨rfl, nofun⟩

/-- Nothing that is free of digits continues a number. -/
theorem endsNumber_of_digitless (digitless : IsDigitless tail) : EndsNumber tail := by
  cases tail with
  | nil => exact endsNumber_nil
  | cons c rest =>
      rw [isDigitless_cons_iff] at digitless
      refine ⟨digitless.1, ?_⟩
      rintro _ _ ⟨⟩ -
      cases rest with
      | nil => rfl
      | cons next rest => exact digitless.2 next List.mem_cons_self

/-! ## Numbers -/

theorem numeral_eq_append (separator : Char) (whole places : List Char) :
    numeral separator whole places = whole ++ numeral separator [] places := by
  unfold numeral
  split_ifs
  · exact (List.append_nil whole).symm
  · rfl

/-- A numeral begins with its first digit. -/
theorem startsWithDigit_numeral (begins : startsWithDigit whole = true) :
    startsWithDigit (numeral separator whole places ++ tail) = true := by
  rcases head_of_startsWithDigit begins with ⟨first, rest, rfl, digit⟩
  rw [numeral_eq_append]
  exact digit

/-- What stands behind the first digits of a numeral is no digit. -/
theorem head_places (places : List Char) (no_digit : isDigit separator = false)
    (ends : EndsNumber tail) :
    ∀ c ∈ (numeral separator [] places ++ tail).head?, isDigit c = false := by
  by_cases none_place : places = []
  · rw [none_place, numeral_nil]
    exact ends.head
  · rw [numeral_of_ne_nil none_place]
    rintro c ⟨⟩
    exact no_digit

/-- The places behind a separator are taken up to the end of the number. -/
theorem takePlaces_numeral {isSeparator : Char → Bool} (more : AllDigits places)
    (ends : EndsNumber tail) (separates : isSeparator separator = true)
    (separators : ∀ c, isSeparator c = true → c = '.' ∨ c = ',') :
    takePlaces isSeparator (numeral separator [] places ++ tail)
      = (numeral separator [] places, tail) := by
  by_cases none_place : places = []
  · rw [none_place, numeral_nil]
    exact ends.takePlaces separators
  · obtain ⟨first, rest, rfl⟩ := List.exists_cons_of_ne_nil none_place
    have both : (isSeparator separator && startsWithDigit ((first :: rest) ++ tail)) = true := by
      rw [separates, Bool.true_and]
      exact more first List.mem_cons_self
    rw [numeral_of_ne_nil none_place, List.nil_append, List.cons_append, takePlaces, if_pos both,
      more.takeWhile_append ends.head, more.dropWhile_append ends.head]

/-- The groups of a number end where its places begin. -/
theorem takeGroups_comma (places : List Char) (ends : EndsNumber tail) :
    takeGroups (numeral ',' [] places ++ tail) = ([], numeral ',' [] places ++ tail) := by
  by_cases none_place : places = []
  · rw [none_place, numeral_nil]
    exact ends.takeGroups
  · rw [numeral_of_ne_nil none_place]
    rfl

/-- Are there no groups at the front of a text, or digits right behind them? -/
def IsUngrouped (text : List Char) : Prop :=
  (takeGroups text).1 = [] ∨ startsWithDigit (takeGroups text).2 = true

/-- Places behind a comma are no groups. -/
theorem isUngrouped_comma (places : List Char) (ends : EndsNumber tail) :
    IsUngrouped (numeral ',' [] places ++ tail) := by
  rw [IsUngrouped, takeGroups_comma places ends]
  exact .inl rfl

theorem goesOn_of_startsWithDigit (begins : startsWithDigit back = true) : goesOn back = true := by
  rcases head_of_startsWithDigit begins with ⟨first, rest, rfl, digit⟩
  have no_point : first ≠ '.' := ne_of_isDigit digit (by decide)
  unfold goesOn
  split
  next same => exact absurd (List.cons.inj same).1 no_point
  next => exact begins

/-- A number without groups is taken as a whole. -/
theorem takeNumber_numeral (digits : AllDigits whole) (more : AllDigits places)
    (ends : EndsNumber tail) (isSeparator : separator = ',' ∨ separator = '.')
    (ungrouped : IsUngrouped (numeral separator [] places ++ tail)) :
    takeNumber (numeral separator whole places ++ tail)
      = (numeral separator whole places, tail) := by
  have no_digit : isDigit separator = false := by
    rcases isSeparator with rfl | rfl <;> decide
  have separates : (separator == '.' || separator == ',') = true := by
    rcases isSeparator with rfl | rfl <;> rfl
  have plain : ¬(whole.length ≤ 3 ∧ (takeGroups (numeral separator [] places ++ tail)).1 ≠ []
      ∧ (!goesOn (takeGroups (numeral separator [] places ++ tail)).2) = true) := by
    rintro ⟨-, grouped, stops⟩
    rcases ungrouped with none_grouped | more_digits
    · exact grouped none_grouped
    · rw [goesOn_of_startsWithDigit more_digits] at stops
      cases stops
  have head := head_places places no_digit ends
  rw [numeral_eq_append, List.append_assoc]
  unfold takeNumber
  rw [digits.takeWhile_append head, digits.dropWhile_append head]
  dsimp only
  rw [if_neg plain, takePlaces_numeral more ends separates
    fun c separates => by simpa using separates]

/-- A number without groups keeps its points. -/
theorem dropGrouping_numeral (digits : AllDigits whole) (no_digit : isDigit separator = false)
    (ungrouped : IsUngrouped (numeral separator [] places)) :
    dropGrouping (numeral separator whole places) = numeral separator whole places := by
  have head := head_places places no_digit endsNumber_nil
  rw [List.append_nil] at head
  have plain : isGrouped (numeral separator whole places) = false := by
    rw [numeral_eq_append]
    unfold isGrouped
    rw [digits.takeWhile_append head, digits.dropWhile_append head]
    rcases ungrouped with none_grouped | more_digits
    · simp [none_grouped]
    · rcases head_of_startsWithDigit more_digits with ⟨first, rest, behind_eq, digit⟩
      have no_comma : first ≠ ',' := ne_of_isDigit digit (by decide)
      simp [behind_eq, no_comma]
  rw [dropGrouping, plain, if_neg Bool.false_ne_true]

end Cashbook.Chat
