import Cashbook.Proofs.Chat.Brazilian

/-!
# Amounts below one real

A number of a sentence is read as in a chat command, unless its points group thousands.  Three
places behind a point are such a group, whatever stands before it: so a sentence with an amount
below one real agrees with a command but for three places, which are taken for whole reais.
-/

namespace Cashbook.Chat

open Text Money Decimal

variable {whole places before after : List Char} {separator : Char}

/-! ## Sentences and commands -/

/-- Does a sentence tell of the expense of an amount as it is read in a command, and is it refused
as the command is? -/
def AgreesWith (told : Except Complaint EntryDraft) : Except CommandAmountError Decimal → Prop
  | .ok amount => ∃ draft, told = .ok draft ∧ draft.kind = .expense
      ∧ draft.amount.isFinite = true ∧ draft.amount.value = amount.value
  | .error .fractionOfCent => told = .error .amountBelowCent
  | .error .notPlain => told = .error .amountNotFound

/-- A number that no points group is read in a sentence as in a command, with a comma as with a
point. -/
theorem agreesWith_of_ungrouped (digitless : IsDigitless before)
    (digits : AllDigits whole) (some_digit : whole ≠ []) (more : AllDigits places)
    (isSeparator : separator = ',' ∨ separator = '.') (ends : EndsNumber after)
    (ungrouped : ∀ {text}, EndsNumber text → IsUngrouped (numeral separator [] places ++ text))
    (categories : List Category) (rules : List KeywordRule) :
    AgreesWith (interpret (before ++ (numeral separator whole places ++ after)) categories rules)
      (readCommandAmount (numeral '.' whole places)) := by
  have no_digit : isDigit separator = false := by
    rcases isSeparator with rfl | rfl <;> decide
  have begins : startsWithDigit (numeral separator whole places ++ after) = true := by
    rw [numeral_eq_append, List.append_assoc]
    exact startsWithDigit_append digits some_digit _
  have alone := ungrouped endsNumber_nil
  rw [List.append_nil] at alone
  rcases exists_interpret_eq digitless begins categories rules with
    ⟨money, number, description, category, told⟩
  rw [takeNumber_numeral digits more ends isSeparator (ungrouped ends)] at number
  rw [told, amountOf, number, dropGrouping_numeral digits no_digit alone,
    readAmount_numeral digits some_digit more isSeparator,
    readCommandAmount_numeral digits some_digit more]
  cases Decimal.read (numeral '.' whole places) with
  | error error => rfl
  | ok amount =>
      dsimp only [Except.mapError]
      split_ifs with cents
      · rcases isWholeCents_iff.mp cents with ⟨count, counted, -⟩
        exact ⟨_, rfl, rfl, counted.1, rfl⟩
      · rfl

/-! ## Places behind a point -/

theorem takeGroups_of_digit {c : Char} (digit : isDigit c = true) (rest : List Char) :
    takeGroups (c :: rest) = ([], c :: rest) := by
  have no_point : c ≠ '.' := ne_of_isDigit digit (by decide)
  unfold takeGroups
  split
  next same => exact absurd (List.cons.inj same).1 no_point
  next => rfl

/-- Places behind a point are no groups of thousands, unless there are three of them. -/
theorem isUngrouped_point (more : AllDigits places) (some_place : places ≠ [])
    (count : places.length ≠ 3) (ends : EndsNumber after) :
    IsUngrouped (numeral '.' [] places ++ after) := by
  rw [numeral_of_ne_nil some_place]
  have head := ends.head
  rcases places with _ | ⟨first, _ | ⟨second, _ | ⟨third, _ | ⟨fourth, rest⟩⟩⟩⟩
  · exact absurd rfl some_place
  · left
    rcases after with _ | ⟨next, _ | ⟨last, rest⟩⟩
    · rfl
    · rfl
    · simp [takeGroups, head next rfl]
  · left
    rcases after with _ | ⟨next, rest⟩
    · rfl
    · simp [takeGroups, head next rfl]
  · exact absurd rfl count
  · -- A fourth digit follows the group of three, so the number goes on behind it.
    simp only [AllDigits, List.forall_mem_cons] at more
    obtain ⟨first_digit, second_digit, third_digit, fourth_digit, -⟩ := more
    right
    simp [takeGroups, first_digit, second_digit, third_digit, takeGroups_of_digit fourth_digit,
      startsWithDigit, fourth_digit]

/-! ## Amounts below one real -/

theorem digitsValue_zero_cons (places : List Char) :
    digitsValue ('0' :: places) = digitsValue places := by
  have zero : digitsValue ['0'] = 0 := by decide
  rw [← List.singleton_append, digitsValue_append, zero, Nat.zero_mul, Nat.zero_add]

/-- A decimal number below one real is worth its places. -/
theorem value_below_one (places : List Char) :
    (finite false (digitsValue (['0'] ++ places)) (-(places.length : Int))).value
      = digitsValue places / 10 ^ places.length := by
  rw [List.singleton_append, digitsValue_zero_cons, value, signed, if_neg Bool.false_ne_true,
    zpow_neg, zpow_natCast, Int.cast_natCast, div_eq_mul_inv]

/-- It is a whole number of cents if all behind its second place is zero. -/
theorem isWholeCents_below_one_iff (places : List Char) :
    isWholeCents (finite false (digitsValue (['0'] ++ places)) (-(places.length : Int))) = true
      ↔ 10 ^ places.length ∣ 100 * digitsValue places := by
  have shift : (0 : ℚ) < 10 ^ places.length := by positivity
  have below := digitsValue_lt places
  rw [isWholeCents_iff]
  constructor
  · rintro ⟨cents, counted, -⟩
    have value_eq := (isCents_iff.mp counted).2
    rw [value_below_one, div_eq_div_iff shift.ne' (by norm_num)] at value_eq
    have same_value : (100 * digitsValue places : ℚ) = 10 ^ places.length * cents := by linarith
    have same : (100 * digitsValue places : Int) = 10 ^ places.length * cents := by
      exact_mod_cast same_value
    have divides : (10 ^ places.length : Int) ∣ 100 * digitsValue places :=
      Dvd.intro cents same.symm
    exact_mod_cast divides
  · rintro ⟨cents, same⟩
    have few : cents < 10 ^ 28 := by
      have less : 10 ^ places.length * cents < 10 ^ places.length * 100 := by omega
      exact (Nat.lt_of_mul_lt_mul_left less).trans (by norm_num)
    refine ⟨cents, isCents_iff.mpr ⟨rfl, ?_⟩, few⟩
    rw [value_below_one, div_eq_div_iff shift.ne' (by norm_num)]
    have same_value : (100 * digitsValue places : ℚ) = 10 ^ places.length * cents := by
      exact_mod_cast same
    push_cast
    linarith

/-- In a command, a decimal number below one real is read exactly, or it is no whole number of
cents. -/
theorem readCommandAmount_below_one (more : AllDigits places)
    (readable : places.length ≤ 10 ^ 18) :
    readCommandAmount (numeral '.' ['0'] places)
      = if 10 ^ places.length ∣ 100 * digitsValue places then
          .ok (finite false (digitsValue (['0'] ++ places)) (-(places.length : Int)))
        else .error .fractionOfCent := by
  have zero : AllDigits ['0'] := by decide
  have small : digitsValue (['0'] ++ places) < 10 ^ places.length := by
    rw [List.singleton_append, digitsValue_zero_cons]
    exact digitsValue_lt places
  rw [readCommandAmount_numeral zero (List.cons_ne_nil _ _) more,
    read_numeral zero (List.cons_ne_nil _ _) more,
    ranged_of_lt false _ small (by unfold minReadExponent; omega)
      (by unfold maxReadExponent; omega)]
  simp only [isWholeCents_below_one_iff]

/-- Digits behind a zero that are no places are read as so many whole reais. -/
theorem exists_amountOf_thousands (more : AllDigits places) (count : places.length = 3)
    {money : MoneyExpression}
    (number : money.number = numeral ',' (['0'] ++ pointGroups places) []) :
    ∃ amount, amountOf money = .ok amount ∧ amount.IsCents (100 * digitsValue places) := by
  have zero : AllDigits ['0'] := by decide
  have no_places : AllDigits [] := List.forall_mem_nil _
  have some_place : places ≠ [] := List.ne_nil_of_length_pos (by omega)
  have digits := allDigits_append_iff.mpr ⟨zero, more⟩
  have below := digitsValue_lt places
  rw [count] at below
  have small : digitsValue (['0'] ++ places ++ []) < 10 ^ 3 := by
    rwa [List.append_nil, List.singleton_append, digitsValue_zero_cons]
  have counted : (finite false (digitsValue (['0'] ++ places ++ []))
      (-(([] : List Char).length : Int))).IsCents (100 * digitsValue places) := by
    rw [List.append_nil, List.singleton_append, digitsValue_zero_cons, isCents_iff]
    refine ⟨rfl, ?_⟩
    simp [value, signed]
  have few : (100 * digitsValue places : Int).natAbs < 10 ^ 28 := by omega
  have whole : isWholeCents _ = true := isWholeCents_iff.mpr ⟨_, counted, few⟩
  refine ⟨_, ?_, counted⟩
  rw [amountOf, number, dropGrouping_pointGroups zero (by decide) more some_place ⟨1, count⟩
    (by decide) no_places, readAmount_numeral digits (List.cons_ne_nil _ _) no_places (.inl rfl),
    read_numeral digits (List.cons_ne_nil _ _) no_places,
    ranged_of_lt false _ small (by decide) (by decide)]
  exact if_pos whole

/-- Three places behind a zero and a point are told as so many whole reais. -/
theorem exists_interpret_thousands (digitless : IsDigitless before)
    (more : AllDigits places) (count : places.length = 3) (ends : EndsNumber after)
    (categories : List Category) (rules : List KeywordRule) :
    ∃ draft, interpret (before ++ (numeral '.' ['0'] places ++ after)) categories rules = .ok draft
      ∧ draft.kind = .expense ∧ draft.amount.IsCents (100 * digitsValue places) := by
  have zero : AllDigits ['0'] := by decide
  have some_place : places ≠ [] := List.ne_nil_of_length_pos (by omega)
  have grouped : numeral '.' ['0'] places = numeral ',' (['0'] ++ pointGroups places) [] := by
    obtain ⟨first, second, third, rfl⟩ := List.length_eq_three.mp count
    rfl
  have begins : startsWithDigit (numeral ',' (['0'] ++ pointGroups places) [] ++ after) = true :=
    startsWithDigit_numeral (startsWithDigit_append zero (List.cons_ne_nil _ _) _)
  rcases exists_interpret_eq digitless begins categories rules with
    ⟨money, number, description, category, told⟩
  rw [takeNumber_pointGroups zero (by decide) more some_place ⟨1, count⟩ (List.forall_mem_nil _)
    ends] at number
  rcases exists_amountOf_thousands more count number with ⟨amount, read, counted⟩
  rw [grouped, told, read]
  exact ⟨_, rfl, rfl, counted⟩

/-- Where there are not three of them, places behind a zero and a point are read as in a command. -/
theorem agreesWith_of_length_ne (digitless : IsDigitless before)
    (more : AllDigits places) (some_place : places ≠ []) (count : places.length ≠ 3)
    (ends : EndsNumber after) (categories : List Category) (rules : List KeywordRule) :
    AgreesWith (interpret (before ++ (numeral '.' ['0'] places ++ after)) categories rules)
      (readCommandAmount (numeral '.' ['0'] places)) :=
  agreesWith_of_ungrouped digitless (by decide) (List.cons_ne_nil _ _) more (.inr rfl) ends
    (isUngrouped_point more some_place count) categories rules

/-- A sentence whose only number is a zero, a point and some places is read as a command with that
number, unless there are three places that are not all zero: then it tells of as many whole reais.
With a comma it is always read as the command with a point, which reads the exact number or refuses
what is below a cent. -/
theorem reads_below_one_iff (digitless : IsDigitless before)
    (no_more : IsDigitless after) (more : AllDigits places) (some_place : places ≠ [])
    (categories : List Category) (rules : List KeywordRule) :
    (AgreesWith (interpret (before ++ ('0' :: '.' :: places) ++ after) categories rules)
        (readCommandAmount ('0' :: '.' :: places))
      ↔ places.length ≠ 3 ∨ digitsValue places = 0)
    ∧ (places.length = 3 → ∃ draft,
        interpret (before ++ ('0' :: '.' :: places) ++ after) categories rules = .ok draft
        ∧ draft.amount.IsCents (100 * digitsValue places))
    ∧ AgreesWith (interpret (before ++ ('0' :: ',' :: places) ++ after) categories rules)
        (readCommandAmount ('0' :: '.' :: places))
    ∧ (places.length ≤ 10 ^ 18 → readCommandAmount ('0' :: '.' :: places)
        = if 10 ^ places.length ∣ 100 * digitsValue places then
            .ok (finite false (digitsValue places) (-(places.length : Int)))
          else .error .fractionOfCent) := by
  have zero : AllDigits ['0'] := by decide
  have ends := endsNumber_of_digitless no_more
  have numeral_eq : ∀ separator, '0' :: separator :: places = numeral separator ['0'] places :=
    fun separator => (@numeral_of_ne_nil ['0'] places separator some_place).symm
  rw [numeral_eq '.', numeral_eq ',', List.append_assoc, List.append_assoc]
  refine ⟨⟨?_, ?_⟩, ?_, ?_, ?_⟩
  · intro agrees
    by_contra wrong
    obtain ⟨count, nonzero⟩ := not_or.mp wrong
    rw [not_not] at count
    rcases exists_interpret_thousands digitless more count ends categories rules with
      ⟨draft, told, -, counted⟩
    rw [told, readCommandAmount_below_one more (by omega)] at agrees
    split_ifs at agrees
    · rcases agrees with ⟨_, same, -, -, value_eq⟩
      cases same
      rw [(isCents_iff.mp counted).2, value_below_one, count] at value_eq
      push_cast at value_eq
      have nothing : (digitsValue places : ℚ) = 0 := by linarith
      exact nonzero (by exact_mod_cast nothing)
    · cases agrees
  · intro admitted
    by_cases count : places.length = 3
    · have nothing := admitted.resolve_left (not_not.mpr count)
      rcases exists_interpret_thousands digitless more count ends categories rules with
        ⟨draft, told, kind, counted⟩
      rw [readCommandAmount_below_one more (by omega), if_pos (by rw [nothing]; exact dvd_zero _)]
      refine ⟨draft, told, kind, counted.1, ?_⟩
      rw [(isCents_iff.mp counted).2, value_below_one, nothing]
      simp
    · exact agreesWith_of_length_ne digitless more some_place count ends categories rules
  · intro count
    rcases exists_interpret_thousands digitless more count ends categories rules with
      ⟨draft, told, -, counted⟩
    exact ⟨draft, told, counted⟩
  · exact agreesWith_of_ungrouped digitless zero (List.cons_ne_nil _ _) more (.inl rfl) ends
      (isUngrouped_comma places) categories rules
  · intro readable
    rw [readCommandAmount_below_one more readable, List.singleton_append, digitsValue_zero_cons]

/-- Half a real at the market is told with two places as a command reads it, and with three places
as five hundred reais. -/
theorem reads_below_one_iff_market :
    AgreesWith (interpret "Gastei 0.50 no mercado".toList [] []) (readCommandAmount "0.50".toList)
    ∧ AgreesWith (interpret "Gastei 0,500 no mercado".toList [] [])
      (readCommandAmount "0.500".toList)
    ∧ ∃ draft, interpret "Gastei 0.500 no mercado".toList [] [] = .ok draft
      ∧ draft.amount.IsCents 50000 := by
  have digitless : IsDigitless "Gastei ".toList := by decide
  have no_more : IsDigitless " no mercado".toList := by decide
  have two : AllDigits "50".toList := by decide
  have three : AllDigits "500".toList := by decide
  have some_place : "50".toList ≠ [] ∧ "500".toList ≠ [] := by decide
  have hundreds : digitsValue "500".toList = 500 := by decide
  have short := reads_below_one_iff digitless no_more two some_place.1 [] []
  have long := reads_below_one_iff digitless no_more three some_place.2 [] []
  rw [hundreds] at long
  exact ⟨short.1.mpr (.inl (by decide)), long.2.2.1, long.2.1 rfl⟩

/-- Half a real with three places is no half real. -/
theorem not_agreesWith_market :
    ¬AgreesWith (interpret "Gastei 0.500 no mercado".toList [] [])
      (readCommandAmount "0.500".toList) := by
  have told : interpret "Gastei 0.500 no mercado".toList [] []
      = .ok { amount := finite false 500 0, description := "mercado" } := by
    decide +kernel
  have read : readCommandAmount "0.500".toList = .ok (finite false 500 (-3)) := by
    decide +kernel
  rw [told, read]
  rintro ⟨draft, same, -, -, value_eq⟩
  cases same
  revert value_eq
  decide +kernel

end Cashbook.Chat
