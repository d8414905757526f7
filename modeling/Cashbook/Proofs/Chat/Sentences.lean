import Cashbook.Proofs.Chat.Brazilian
import Cashbook.Proofs.Chat.Confirmation
import Cashbook.Proofs.Text.Words

/-!
# Sentences

A sentence without digits names no amount.  Any other one is cut at its first digit into the words
before a money expression, the expression with its currency marks, and the words behind it.  Its
number is always read, whatever digits and separators follow each other, so the sentence tells of
an expense or its amount is too fine.
-/

namespace Cashbook.Chat

open Text Money Decimal

variable {text front back rest : List Char} {money : MoneyExpression}

/-! ## Currency marks -/

theorem exists_eq_append_of_dropWholeWord? {word : List Char}
    (dropped : dropWholeWord? word text = some rest) :
    ∃ name, text = name ++ rest ∧ Writes word name := by
  unfold dropWholeWord? at dropped
  split at dropped
  next cut =>
    cases dropped
    exact exists_eq_append_of_dropWord? cut
  next c behind cut =>
    split_ifs at dropped
    cases dropped
    exact exists_eq_append_of_dropWord? cut
  next => cases dropped

/-- Is a text blanks behind a number, perhaps with a name of the currency behind them? -/
def IsCurrencyTail (text : List Char) : Prop :=
  ∃ blanks name, text = blanks ++ name ∧ AllBlank blanks
    ∧ (name = [] ∨ ∃ word ∈ currencyNames, Writes word.toList name)

/-- What is left out behind a number is blanks and a name of the currency. -/
theorem exists_eq_append_dropCurrencyBehind (text : List Char) :
    ∃ tail, text = tail ++ dropCurrencyBehind text ∧ IsCurrencyTail tail := by
  have blank : AllBlank (text.takeWhile isBlank) := fun c => List.mem_takeWhile_imp
  have text_eq := (@List.takeWhile_append_dropWhile _ isBlank text).symm
  unfold dropCurrencyBehind
  dsimp only
  generalize text.dropWhile isBlank = behind at *
  cases named : ((dropWholeWord? "reais".toList behind).or
      (dropWholeWord? "real".toList behind)).or
      ((dropWholeWord? "brl".toList behind).or (dropCurrencyMark? behind)) with
  | none => exact ⟨_, text_eq, _, [], (List.append_nil _).symm, blank, .inl rfl⟩
  | some rest =>
      obtain ⟨name, rfl, word, listed, written⟩ : ∃ name, behind = name ++ rest
          ∧ ∃ word ∈ currencyNames, Writes word.toList name := by
        have whole : ∀ word ∈ currencyNames, dropWholeWord? word.toList behind = some rest →
            ∃ name, behind = name ++ rest ∧ ∃ word ∈ currencyNames, Writes word.toList name := by
          intro word listed dropped
          obtain ⟨name, behind_eq, written⟩ := exists_eq_append_of_dropWholeWord? dropped
          exact ⟨name, behind_eq, word, listed, written⟩
        simp only [Option.or_eq_some_iff] at named
        rcases named with (reais | ⟨-, real⟩) | ⟨-, brl | ⟨-, mark⟩⟩
        · exact whole "reais" (by decide) reais
        · exact whole "real" (by decide) real
        · exact whole "brl" (by decide) brl
        · obtain ⟨letter, isLetter, rfl⟩ := exists_eq_append_of_dropCurrencyMark? mark
          exact ⟨[letter, '$'], rfl, "r$", by decide,
            .cons (writesLetter_r_iff.mpr isLetter) (.cons (by decide) .nil)⟩
      refine ⟨text.takeWhile isBlank ++ name, ?_, _, name, rfl, blank,
        .inr ⟨word, listed, written⟩⟩
      rwa [List.append_assoc]

/-! ## Numbers -/

/-- A number as it may stand in a sentence: digits with places behind a separator, or one to three
digits with groups of three behind points, and then places behind a comma. -/
inductive IsNumber : List Char → Prop
  | plain {separator : Char} {whole places : List Char}
      (isSeparator : separator = ',' ∨ separator = '.') (digits : AllDigits whole)
      (some_digit : whole ≠ []) (more : AllDigits places) :
      IsNumber (numeral separator whole places)
  | grouped {lead row places : List Char} (lead_digits : AllDigits lead)
      (some_lead : 1 ≤ lead.length) (few : lead.length ≤ 3) (row_digits : AllDigits row)
      (some_row : row ≠ []) (threes : 3 ∣ row.length) (more : AllDigits places) :
      IsNumber (numeral ',' (lead ++ pointGroups row) places)

/-- There is a digit in a number. -/
theorem IsNumber.not_digitless {number : List Char} (isNumber : IsNumber number) :
    ¬IsDigitless number := by
  have some_digit : ∀ {whole : List Char}, AllDigits whole → whole ≠ [] → ¬IsDigitless whole := by
    intro whole digits some_digit digitless
    obtain ⟨c, member⟩ := List.exists_mem_of_ne_nil whole some_digit
    exact Bool.false_ne_true ((digitless c member).symm.trans (digits c member))
  intro digitless
  cases isNumber with
  | plain isSeparator digits begins more =>
      rw [numeral_eq_append, isDigitless_append_iff] at digitless
      exact some_digit digits begins digitless.1
  | grouped lead_digits some_lead few row_digits some_row threes more =>
      rw [numeral_eq_append, isDigitless_append_iff, isDigitless_append_iff] at digitless
      exact some_digit lead_digits (List.ne_nil_of_length_pos some_lead) digitless.1.1

/-- What is taken as groups are groups. -/
theorem exists_takeGroups_eq (text : List Char) :
    ∃ row, AllDigits row ∧ 3 ∣ row.length ∧ (takeGroups text).1 = pointGroups row
      ∧ text = pointGroups row ++ (takeGroups text).2 := by
  induction text using takeGroups.induct with
  | case1 first second third rest all groups behind taken ih =>
      obtain ⟨row, digits, threes, groups_eq, rest_eq⟩ := ih
      have both := all
      rw [Bool.and_eq_true, Bool.and_eq_true] at both
      obtain ⟨⟨first_digit, second_digit⟩, third_digit⟩ := both
      refine ⟨first :: second :: third :: row, ?_, ?_, ?_, ?_⟩
      · simpa [AllDigits, first_digit, second_digit, third_digit] using digits
      · simp only [List.length_cons]
        omega
      · rw [takeGroups, if_pos all, pointGroups]
        exact congrArg (fun groups => '.' :: first :: second :: third :: groups) groups_eq
      · rw [takeGroups, if_pos all, pointGroups]
        simpa using rest_eq
  | case2 first second third rest other =>
      refine ⟨[], List.forall_mem_nil _, ⟨0, rfl⟩, ?_, ?_⟩
      · rw [takeGroups, if_neg other]
        rfl
      · rw [takeGroups, if_neg other]
        rfl
  | case3 text short =>
      refine ⟨[], List.forall_mem_nil _, ⟨0, rfl⟩, ?_, ?_⟩
      · rw [takeGroups]
        · rfl
        · exact short
      · rw [takeGroups]
        · rfl
        · exact short

/-- What is taken as places are digits behind a separator. -/
theorem exists_takePlaces_eq {isSeparator : Char → Bool} (comma : isSeparator ',' = true)
    (text : List Char) :
    ∃ separator places, isSeparator separator = true ∧ AllDigits places
      ∧ (takePlaces isSeparator text).1 = numeral separator [] places
      ∧ text = numeral separator [] places ++ (takePlaces isSeparator text).2 := by
  cases text with
  | nil => exact ⟨',', [], comma, List.forall_mem_nil _, rfl, rfl⟩
  | cons c rest =>
      rw [takePlaces]
      split_ifs with both
      · rw [Bool.and_eq_true] at both
        have some_place : rest.takeWhile isDigit ≠ [] := by
          obtain ⟨first, others, rfl, digit⟩ := head_of_startsWithDigit both.2
          simp [digit]
        refine ⟨c, rest.takeWhile isDigit, both.1, fun c => List.mem_takeWhile_imp, ?_, ?_⟩
        · rw [numeral_of_ne_nil some_place]
          rfl
        · rw [numeral_of_ne_nil some_place, List.nil_append, List.cons_append,
            List.takeWhile_append_dropWhile]
      · exact ⟨',', [], comma, List.forall_mem_nil _, rfl, rfl⟩

/-- At a digit a number is taken off the front of a text. -/
theorem isNumber_takeNumber (begins : startsWithDigit text = true) :
    IsNumber (takeNumber text).1 ∧ text = (takeNumber text).1 ++ (takeNumber text).2 := by
  have digits : AllDigits (text.takeWhile isDigit) := fun c => List.mem_takeWhile_imp
  have some_digit : text.takeWhile isDigit ≠ [] := by
    obtain ⟨first, others, rfl, digit⟩ := head_of_startsWithDigit begins
    simp [digit]
  have text_eq := (@List.takeWhile_append_dropWhile _ isDigit text).symm
  unfold takeNumber
  dsimp only
  generalize text.takeWhile isDigit = whole at *
  generalize text.dropWhile isDigit = rest at *
  obtain ⟨row, row_digits, threes, groups_eq, rest_eq⟩ := exists_takeGroups_eq rest
  split_ifs with grouped
  · obtain ⟨few, some_group, -⟩ := grouped
    obtain ⟨separator, places, comma, more, places_eq, behind_eq⟩ :=
      @exists_takePlaces_eq (· == ',') rfl (takeGroups rest).2
    rw [beq_iff_eq] at comma
    subst comma
    have some_row : row ≠ [] := by
      rintro rfl
      exact some_group groups_eq
    dsimp only
    rw [groups_eq, places_eq]
    constructor
    · rw [← numeral_eq_append]
      exact .grouped digits (List.length_pos_of_ne_nil some_digit) few row_digits some_row threes
        more
    · rw [List.append_assoc, List.append_assoc, ← behind_eq, ← rest_eq, text_eq]
  · obtain ⟨separator, places, isSeparator, more, places_eq, behind_eq⟩ :=
      @exists_takePlaces_eq (fun c => c == '.' || c == ',') rfl rest
    rw [Bool.or_eq_true, beq_iff_eq, beq_iff_eq] at isSeparator
    dsimp only
    rw [places_eq]
    constructor
    · rw [← numeral_eq_append]
      exact .plain isSeparator.symm digits some_digit more
    · rw [List.append_assoc, ← behind_eq, text_eq]

/-- Without its grouping a number is a plain numeral. -/
theorem IsNumber.exists_dropGrouping_eq {number : List Char} (isNumber : IsNumber number) :
    ∃ separator whole places, (separator = ',' ∨ separator = '.') ∧ AllDigits whole ∧ whole ≠ []
      ∧ AllDigits places ∧ dropGrouping number = numeral separator whole places := by
  cases isNumber with
  | @plain separator whole places isSeparator digits some_digit more =>
      unfold dropGrouping
      split_ifs with grouped
      · have point : isDigit '.' = false := by decide
        by_cases none_place : places = []
        · rw [none_place, numeral_nil, digits.filter_ne point]
          exact ⟨'.', whole, [], .inr rfl, digits, some_digit, List.forall_mem_nil _,
            numeral_nil.symm⟩
        · rw [numeral_of_ne_nil none_place, List.filter_append, digits.filter_ne point]
          rcases isSeparator with rfl | rfl
          · rw [List.filter_cons_of_pos (by decide), more.filter_ne point]
            exact ⟨',', whole, places, .inl rfl, digits, some_digit, more,
              (numeral_of_ne_nil none_place).symm⟩
          · rw [List.filter_cons_of_neg (by decide), more.filter_ne point]
            exact ⟨'.', whole ++ places, [], .inr rfl, allDigits_append_iff.mpr ⟨digits, more⟩,
              List.append_ne_nil_of_left_ne_nil some_digit _, List.forall_mem_nil _,
              numeral_nil.symm⟩
      · exact ⟨separator, whole, places, isSeparator, digits, some_digit, more, rfl⟩
  | @grouped lead row places lead_digits some_lead few row_digits some_row threes more =>
      exact ⟨',', lead ++ row, places, .inl rfl, allDigits_append_iff.mpr ⟨lead_digits, row_digits⟩,
        List.append_ne_nil_of_right_ne_nil _ some_row, more,
        dropGrouping_pointGroups lead_digits few row_digits some_row threes some_lead more⟩

/-! ## Where a sentence is cut -/

/-- A money expression begins with its number or with a currency mark before it. -/
theorem exists_eq_append_of_moneyFront? {number : List Char}
    (found : moneyFront? text = some number) :
    ∃ front, text = front ++ number ∧ IsCurrencyFront front ∧ startsWithDigit number = true := by
  unfold moneyFront? at found
  split_ifs at found with begins
  · cases found
    exact ⟨[], rfl, .inl rfl, begins⟩
  · split at found
    next rest marked =>
      dsimp only at found
      split_ifs at found with behind
      cases found
      obtain ⟨letter, isLetter, rfl⟩ := exists_eq_append_of_dropCurrencyMark? marked
      refine ⟨letter :: '$' :: rest.takeWhile isBlank, ?_, .inr ⟨letter, _, isLetter,
        fun c => List.mem_takeWhile_imp, rfl⟩, behind⟩
      rw [List.cons_append, List.cons_append, List.takeWhile_append_dropWhile]
    next => cases found

/-- Is a sentence cut before and behind a money expression, which is its number with currency marks
around it?  Nothing before the number is a digit. -/
structure MoneyExpression.IsCutFrom (money : MoneyExpression) (text : List Char) : Prop where
  isNumber : IsNumber money.number
  digitless : IsDigitless money.before
  exists_eq : ∃ front tail, IsCurrencyFront front ∧ IsCurrencyTail tail
    ∧ text = money.before ++ (front ++ money.number ++ tail) ++ money.after

/-- A money expression that is found is cut from the sentence. -/
theorem isCutFrom_of_find? (found : MoneyExpression.find? text = some money) :
    money.IsCutFrom text := by
  induction text generalizing money with
  | nil => cases found
  | cons c rest ih =>
      rw [MoneyExpression.find?] at found
      split at found
      next number here =>
        obtain ⟨front, text_eq, marked, begins⟩ := exists_eq_append_of_moneyFront? here
        obtain ⟨isNumber, number_eq⟩ := isNumber_takeNumber begins
        generalize takeNumber number = taken at *
        obtain ⟨digits, behind⟩ := taken
        cases found
        obtain ⟨tail, behind_eq, named⟩ := exists_eq_append_dropCurrencyBehind behind
        refine ⟨isNumber, List.forall_mem_nil _, front, tail, marked, named, ?_⟩
        rw [text_eq, List.nil_append, List.append_assoc, List.append_assoc, ← behind_eq, number_eq]
      next without =>
        obtain ⟨later, found_later, rfl⟩ := Option.map_eq_some_iff.mp found
        obtain ⟨isNumber, digitless, front, tail, marked, named, rfl⟩ := ih found_later
        have no_digit : isDigit c = false := by
          by_contra digit
          rw [moneyFront?, if_pos (Bool.not_eq_false _ ▸ digit)] at without
          cases without
        exact ⟨isNumber, isDigitless_cons_iff.mpr ⟨no_digit, digitless⟩, front, tail, marked, named,
          rfl⟩

/-- A text is free of digits, or it has a first one. -/
theorem digitless_or_first (text : List Char) :
    IsDigitless text
      ∨ ∃ front back, text = front ++ back ∧ IsDigitless front ∧ startsWithDigit back = true := by
  induction text with
  | nil => exact .inl (List.forall_mem_nil _)
  | cons c rest ih =>
      cases digit : isDigit c with
      | true => exact .inr ⟨[], c :: rest, rfl, List.forall_mem_nil _, digit⟩
      | false =>
          rcases ih with digitless | ⟨front, back, rfl, digitless, begins⟩
          · exact .inl (isDigitless_cons_iff.mpr ⟨digit, digitless⟩)
          · exact .inr ⟨c :: front, back, rfl, isDigitless_cons_iff.mpr ⟨digit, digitless⟩, begins⟩

/-- A sentence has a money expression if there is a digit in it. -/
theorem find?_eq_none_iff : MoneyExpression.find? text = none ↔ IsDigitless text := by
  constructor
  · intro without
    rcases digitless_or_first text with digitless | ⟨front, back, rfl, digitless, begins⟩
    · exact digitless
    · obtain ⟨money, found, -⟩ := find?_of_digitless digitless begins
      cases without.symm.trans found
  · intro digitless
    by_contra found
    obtain ⟨money, found⟩ := Option.ne_none_iff_exists'.mp found
    obtain ⟨isNumber, -, front, tail, -, -, rfl⟩ := isCutFrom_of_find? found
    simp only [isDigitless_append_iff] at digitless
    exact isNumber.not_digitless digitless.1.2.1.2

/-! ## Amounts -/

/-- Is an amount the exact number that a money expression writes, its grouping aside? -/
def MoneyExpression.IsWorth (money : MoneyExpression) (amount : Decimal) : Prop :=
  ∃ separator whole places, AllDigits whole ∧ AllDigits places
    ∧ dropGrouping money.number = numeral separator whole places
    ∧ amount = finite false (digitsValue (whole ++ places)) (-(places.length : Int))

/-- The number of a money expression is read, if it is in reach, and refused if it is finer than a
cent. -/
theorem amountOf_cases (isNumber : IsNumber money.number) :
    amountOf money = .error .amountNotFound ∧ ¬IsInReach money.number
      ∨ ∃ amount, money.IsWorth amount
        ∧ amountOf money = if isWholeCents amount then .ok amount else .error .amountBelowCent := by
  obtain ⟨separator, whole, places, isSeparator, digits, some_digit, more, dropped⟩ :=
    isNumber.exists_dropGrouping_eq
  have shorter : (dropGrouping money.number).length ≤ money.number.length := by
    unfold dropGrouping
    split_ifs
    · exact List.length_filter_le _ _
    · exact le_rfl
  rw [dropped] at shorter
  rw [amountOf, dropped, readAmount_numeral digits some_digit more isSeparator,
    read_numeral digits some_digit more]
  cases in_range : ranged false (digitsValue (whole ++ places)) (-(places.length : Int)) with
  | error error =>
      refine .inl ⟨rfl, fun reach => ?_⟩
      have digits_reach : IsInReach (whole ++ places) :=
        lt_of_le_of_lt ((length_le_length_numeral separator whole places).trans shorter) reach
      rw [ranged_of_isInReach false digits_reach (by simp)] at in_range
      cases in_range
  | ok amount =>
      exact .inr ⟨amount, ⟨separator, whole, places, digits, more, dropped,
        eq_finite_of_ranged in_range⟩, rfl⟩

/-! ## Descriptions -/

/-- Is a description a run of words, with one space between neighbours, that neither begins nor
ends with a preposition?  All words before the run are verbs of spending or prepositions, and all
behind it are prepositions; if no word is left, the description is the one of which nothing is
said. -/
def IsDescriptionOf (words : List (List Char)) (description : List Char) : Prop :=
  ∃ left body right, words = left ++ body ++ right
    ∧ (∀ word ∈ left, isListed fillerVerbs word = true ∨ isListed prepositions word = true)
    ∧ (∀ word ∈ right, isListed prepositions word = true)
    ∧ (∀ word ∈ body.head?, isListed prepositions word = false)
    ∧ (∀ word ∈ body.getLast?, isListed prepositions word = false)
    ∧ description = if body = [] then defaultDescription else joinWords body

/-- What remains of a list does not begin with the property that was dropped. -/
theorem head?_dropWhile_eq_false (property : List Char → Bool) (words : List (List Char)) :
    ∀ word ∈ (words.dropWhile property).head?, property word = false := by
  intro word first
  have stops := List.head?_dropWhile_not property words
  rwa [Option.mem_def.mp first] at stops

/-- What is dropped from the end of a list has the property, and what remains does not end with
it. -/
theorem exists_eq_append_dropWhile_reverse (property : List Char → Bool)
    (words : List (List Char)) :
    ∃ right, words = (words.reverse.dropWhile property).reverse ++ right
      ∧ (∀ word ∈ right, property word = true)
      ∧ ∀ word ∈ (words.reverse.dropWhile property).reverse.getLast?, property word = false := by
  refine ⟨(words.reverse.takeWhile property).reverse, ?_, fun word member => ?_, ?_⟩
  · rw [← List.reverse_append, List.takeWhile_append_dropWhile, List.reverse_reverse]
  · exact List.mem_takeWhile_imp (List.mem_reverse.mp member)
  · intro word last
    rw [List.getLast?_reverse] at last
    exact head?_dropWhile_eq_false property words.reverse word last

/-- An expense is described by the words around its money expression. -/
theorem isDescriptionOf_describe (money : MoneyExpression) :
    IsDescriptionOf (words money.before ++ words money.after) (describe money) := by
  have cut : words (money.before ++ ' ' :: money.after) = words money.before ++ words money.after :=
    words_append_cons (by decide)
  unfold describe
  rw [cut]
  generalize words money.before ++ words money.after = around
  have verbs_split := (@List.takeWhile_append_dropWhile _ (isListed fillerVerbs) around).symm
  set behind := around.dropWhile (isListed fillerVerbs) with behind_eq
  have joins_split := (@List.takeWhile_append_dropWhile _ (isListed prepositions) behind).symm
  have begins := head?_dropWhile_eq_false (isListed prepositions) behind
  set rest := behind.dropWhile (isListed prepositions) with rest_eq
  obtain ⟨right, rest_split, joins, ends⟩ :=
    exists_eq_append_dropWhile_reverse (isListed prepositions) rest
  have body_eq : descriptionWords around
      = (rest.reverse.dropWhile (isListed prepositions)).reverse := rfl
  rw [← body_eq] at rest_split ends
  generalize descriptionWords around = body at *
  refine ⟨around.takeWhile (isListed fillerVerbs) ++ behind.takeWhile (isListed prepositions), body,
    right, ?_, ?_, joins, ?_, ends, ?_⟩
  · rw [List.append_assoc, List.append_assoc, ← rest_split, ← joins_split, ← verbs_split]
  · intro word member
    rcases List.mem_append.mp member with verb | join
    · exact .inl (List.mem_takeWhile_imp verb)
    · exact .inr (List.mem_takeWhile_imp join)
  · intro word first
    refine begins word ?_
    rw [rest_split, List.head?_append, Option.mem_def.mp first]
    rfl
  · cases body <;> rfl

/-! ## What a sentence tells -/

/-- Is a draft the expense that a money expression among other words tells of? -/
structure IsExpenseOf (money : MoneyExpression) (categories : List Category)
    (draft : EntryDraft) : Prop where
  simple : draft.IsSimple
  amount : money.IsWorth draft.amount
  cents : ∃ cents : Nat, cents < 10 ^ 28 ∧ draft.amount.IsCents cents
  category : ∀ category ∈ draft.category, category ∈ categories ∧ category.kind = .expense
  description : IsDescriptionOf (words money.before ++ words money.after) draft.description.toList

/-- A sentence in which a money expression is found tells of an expense of its amount, unless that
is out of reach or finer than a cent. -/
theorem interpret_of_find? (found : MoneyExpression.find? text = some money)
    (categories : List Category) (rules : List KeywordRule) :
    interpret text categories rules = .error .amountNotFound ∧ ¬IsInReach money.number
      ∨ (interpret text categories rules = .error .amountBelowCent
        ∧ ∃ amount, money.IsWorth amount ∧ isWholeCents amount = false)
      ∨ ∃ draft, interpret text categories rules = .ok draft
        ∧ IsExpenseOf money categories draft := by
  unfold interpret
  rw [found]
  dsimp only
  rcases amountOf_cases (isCutFrom_of_find? found).isNumber with
    ⟨refused, far⟩ | ⟨amount, worth, amount_eq⟩
  · rw [refused]
    exact .inl ⟨rfl, far⟩
  · rw [amount_eq]
    cases whole : isWholeCents amount with
    | false => exact .inr (.inl ⟨rfl, amount, worth, whole⟩)
    | true =>
        have written := worth
        obtain ⟨separator, digits, places, -, -, -, rfl⟩ := written
        refine .inr (.inr ⟨_, rfl, ⟨rfl, rfl, rfl, rfl, rfl⟩, worth,
          isWholeCents_finite_iff.mp whole, fun category chosen => ?_, ?_⟩)
        · obtain ⟨hint, -, hinted⟩ := Option.bind_eq_some_iff.mp chosen
          exact hintedCategory_spec hinted
        · rw [String.toList_ofList]
          exact isDescriptionOf_describe money

theorem MoneyExpression.IsCutFrom.length_number_le (cut : money.IsCutFrom text) :
    money.number.length ≤ text.length := by
  obtain ⟨-, -, front, tail, -, -, rfl⟩ := cut
  simp only [List.length_append]
  omega

/-- A sentence names no amount exactly if there is no digit in it.  Any other one is cut around a
money expression, and tells of an expense of the amount that this writes, described by a run of the
other words and with one of the owner's categories or none, unless the amount is finer than a
cent. -/
theorem interpret_isExpenseOf (text : List Char) (categories : List Category)
    (rules : List KeywordRule) :
    (IsInReach text →
      (interpret text categories rules = .error .amountNotFound ↔ IsDigitless text))
    ∧ (interpret text categories rules = .error .amountNotFound
      ∨ ∃ money, MoneyExpression.find? text = some money ∧ money.IsCutFrom text
        ∧ ((interpret text categories rules = .error .amountBelowCent
            ∧ ∃ amount, money.IsWorth amount ∧ isWholeCents amount = false)
          ∨ ∃ draft, interpret text categories rules = .ok draft
            ∧ IsExpenseOf money categories draft)) := by
  cases found : MoneyExpression.find? text with
  | none =>
      have refused : interpret text categories rules = .error .amountNotFound := by
        rw [interpret, found]
      exact ⟨fun _ => iff_of_true refused (find?_eq_none_iff.mp found), .inl refused⟩
  | some money =>
      have cut := isCutFrom_of_find? found
      have some_digit : ¬IsDigitless text := by
        rw [← find?_eq_none_iff, found]
        exact Option.some_ne_none money
      rcases interpret_of_find? found categories rules with
        ⟨refused, far⟩ | ⟨refused, below⟩ | ⟨draft, told, expense⟩
      · exact ⟨fun reach => absurd (lt_of_le_of_lt cut.length_number_le reach) far, .inl refused⟩
      · refine ⟨fun _ => iff_of_false (fun named => ?_) some_digit,
          .inr ⟨money, rfl, cut, .inl ⟨refused, below⟩⟩⟩
        cases refused.symm.trans named
      · refine ⟨fun _ => iff_of_false (fun named => ?_) some_digit,
          .inr ⟨money, rfl, cut, .inr ⟨draft, told, expense⟩⟩⟩
        cases told.symm.trans named

/-- The amount of a sentence may be grouped and have a currency mark and a name. -/
theorem interpret_isExpenseOf_market :
    IsInReach "Gastei R$ 1.500,00 reais no mercado de".toList
      ∧ interpret "Gastei R$ 1.500,00 reais no mercado de".toList
          [⟨1, "maria", "Alimentação", .expense⟩] defaultRules ≠ .error .amountNotFound
      ∧ ∃ money, money.IsCutFrom "Gastei R$ 1.500,00 reais no mercado de".toList
        ∧ IsExpenseOf money [⟨1, "maria", "Alimentação", .expense⟩]
          { amount := finite false 150000 (-2)
            description := "mercado"
            category := some ⟨1, "maria", "Alimentação", .expense⟩ } := by
  have reach : IsInReach "Gastei R$ 1.500,00 reais no mercado de".toList := by decide
  have told : interpret "Gastei R$ 1.500,00 reais no mercado de".toList
      [⟨1, "maria", "Alimentação", .expense⟩] defaultRules
        = .ok { amount := finite false 150000 (-2)
                description := "mercado"
                category := some ⟨1, "maria", "Alimentação", .expense⟩ } := by
    decide +kernel
  obtain ⟨named, outcome⟩ := interpret_isExpenseOf "Gastei R$ 1.500,00 reais no mercado de".toList
    [⟨1, "maria", "Alimentação", .expense⟩] defaultRules
  refine ⟨reach, (named reach).not.mpr (by decide), ?_⟩
  rw [told] at outcome
  rcases outcome with refused | ⟨money, -, cut, ⟨refused, -⟩ | ⟨draft, same, expense⟩⟩
  · cases refused
  · cases refused
  · cases same
    exact ⟨money, cut, expense⟩

end Cashbook.Chat
