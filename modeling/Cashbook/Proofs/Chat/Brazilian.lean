import Cashbook.Proofs.Chat.MoneyExpression

/-!
# Amounts in Brazilian notation

An amount is written with a comma before its cents, and points may group its thousands.  However
it is written so, wherever it stands behind words without digits and whatever currency mark or name
is with it, it is read as the amount it was.
-/

namespace Cashbook.Chat

open Text Money Decimal

/-! ## The notation -/

/-- Digits in groups of three with a point before each group. -/
def pointGroups : List Char → List Char
  | first :: second :: third :: rest => '.' :: first :: second :: third :: pointGroups rest
  | _ => []

/-- Digits with a point before every three that are not the first ones, counted from the end. -/
def groupThousands (digits : List Char) : List Char :=
  let front := (digits.length + 2) % 3 + 1
  digits.take front ++ pointGroups (digits.drop front)

/-- The two digits of a number of cents that is less than a real. -/
def centDigits (cents : Nat) : List Char :=
  [Nat.digitChar (cents / 10), Nat.digitChar (cents % 10)]

/-- What stands behind the comma; a short form leaves the cents out where there are none. -/
def centPlaces (short : Bool) (cents : Nat) : List Char :=
  if short ∧ cents % 100 = 0 then [] else centDigits (cents % 100)

/-- A number of cents in Brazilian notation: its reais with points or without, a comma and two
digits, or the reais only. -/
def brazilian (pointed short : Bool) (cents : Nat) : List Char :=
  numeral ','
    (if pointed then groupThousands (Nat.toDigits 10 (cents / 100))
      else Nat.toDigits 10 (cents / 100))
    (centPlaces short cents)

example : brazilian true false 123456789 = "1.234.567,89".toList := by
  decide

example : brazilian false true 150000 = "1500".toList := by
  decide

/-- Is a text nothing, or the currency mark before an amount with blanks behind it? -/
def IsCurrencyFront (text : List Char) : Prop :=
  text = [] ∨ ∃ letter blanks, (letter = 'r' ∨ letter = 'R') ∧ AllBlank blanks
    ∧ text = letter :: '$' :: blanks

/-- What the currency is called behind an amount. -/
def currencyNames : List String :=
  ["reais", "real", "brl", "r$"]

/-- Is a text nothing, or a name of the currency in any letter case, with blanks before it? -/
def IsCurrencyBack (text : List Char) : Prop :=
  text = [] ∨ ∃ blanks word name, AllBlank blanks ∧ name ∈ currencyNames
    ∧ word.map Char.toLower = name.toList ∧ text = blanks ++ word

variable {row lead places tail digits : List Char}

/-! ## Groups of thousands -/

/-- Groups of three digits are taken as far as they go. -/
theorem takeGroups_pointGroups (all : AllDigits row) (threes : 3 ∣ row.length)
    (stops : takeGroups tail = ([], tail)) :
    takeGroups (pointGroups row ++ tail) = (pointGroups row, tail) := by
  induction row using pointGroups.induct with
  | case1 first second third rest ih =>
      simp only [AllDigits, List.forall_mem_cons] at all
      obtain ⟨first_digit, second_digit, third_digit, rest_digits⟩ := all
      have rest_threes : 3 ∣ rest.length := by
        simp only [List.length_cons] at threes
        omega
      simp [pointGroups, takeGroups, first_digit, second_digit, third_digit,
        ih rest_digits rest_threes]
  | case2 row short =>
      rw [pointGroups]
      · exact stops
      · exact short

/-- Without the points the digits of the groups are left. -/
theorem filter_pointGroups (all : AllDigits row) (threes : 3 ∣ row.length) :
    (pointGroups row).filter (· ≠ '.') = row := by
  induction row using pointGroups.induct with
  | case1 first second third rest ih =>
      simp only [AllDigits, List.forall_mem_cons] at all
      obtain ⟨first_digit, second_digit, third_digit, rest_digits⟩ := all
      have rest_threes : 3 ∣ rest.length := by
        simp only [List.length_cons] at threes
        omega
      have no_point : ∀ {c}, isDigit c = true → c ≠ '.' :=
        fun digit => ne_of_isDigit digit (by decide)
      simpa [pointGroups, no_point first_digit, no_point second_digit, no_point third_digit]
        using ih rest_digits rest_threes
  | case2 row short =>
      rcases row with _ | ⟨first, _ | ⟨second, _ | ⟨third, rest⟩⟩⟩
      · rfl
      · simp at threes
      · simp at threes
      · exact absurd rfl (short first second third rest)

/-- Digits are grouped behind the first one to three, if there are more. -/
theorem groupThousands_cases (some_digit : digits ≠ []) :
    groupThousands digits = digits
      ∨ ∃ lead row, digits = lead ++ row ∧ groupThousands digits = lead ++ pointGroups row
        ∧ 1 ≤ lead.length ∧ lead.length ≤ 3 ∧ row ≠ [] ∧ 3 ∣ row.length := by
  have some_length := List.length_pos_of_ne_nil some_digit
  by_cases few : digits.length ≤ 3
  · left
    have whole : digits.length = (digits.length + 2) % 3 + 1 := by omega
    rw [groupThousands, ← whole, List.take_length, List.drop_length]
    exact List.append_nil digits
  · right
    refine ⟨_, _, (List.take_append_drop ((digits.length + 2) % 3 + 1) digits).symm, rfl, ?_⟩
    rw [List.length_take, List.length_drop, ne_eq, List.drop_eq_nil_iff]
    omega

theorem exists_pointGroups_eq (some_row : row ≠ []) (threes : 3 ∣ row.length) :
    ∃ rest, pointGroups row = '.' :: rest := by
  rcases row with _ | ⟨first, _ | ⟨second, _ | ⟨third, rest⟩⟩⟩
  · exact absurd rfl some_row
  · simp at threes
  · simp at threes
  · exact ⟨_, rfl⟩

/-- Groups begin with their first point. -/
theorem head_pointGroups (some_row : row ≠ []) (threes : 3 ∣ row.length) (rest : List Char) :
    ∀ c ∈ (pointGroups row ++ rest).head?, isDigit c = false := by
  rcases exists_pointGroups_eq some_row threes with ⟨others, begins⟩
  rw [begins]
  rintro _ ⟨⟩
  decide

/-- A number does not go on with a comma. -/
theorem goesOn_comma (places : List Char) (ends : EndsNumber tail) :
    goesOn (numeral ',' [] places ++ tail) = false := by
  by_cases none_place : places = []
  · rw [none_place, numeral_nil]
    exact ends.goesOn
  · have no_digit : isDigit ',' = false := by decide
    rw [numeral_of_ne_nil none_place]
    exact no_digit

section Grouped

variable (lead_digits : AllDigits lead) (few : lead.length ≤ 3) (row_digits : AllDigits row)
  (some_row : row ≠ []) (threes : 3 ∣ row.length)

include lead_digits few row_digits some_row threes

/-- A number with groups is taken with them. -/
theorem takeNumber_pointGroups (more : AllDigits places) (ends : EndsNumber tail) :
    takeNumber (numeral ',' (lead ++ pointGroups row) places ++ tail)
      = (numeral ',' (lead ++ pointGroups row) places, tail) := by
  rcases exists_pointGroups_eq some_row threes with ⟨rest, begins⟩
  have head := head_pointGroups some_row threes (numeral ',' [] places ++ tail)
  have grouped : lead.length ≤ 3 ∧ pointGroups row ≠ []
      ∧ (!goesOn (numeral ',' [] places ++ tail)) = true := by
    rw [goesOn_comma places ends, begins]
    exact ⟨few, List.cons_ne_nil _ _, rfl⟩
  rw [numeral_eq_append, List.append_assoc, List.append_assoc]
  unfold takeNumber
  rw [lead_digits.takeWhile_append head, lead_digits.dropWhile_append head]
  dsimp only
  rw [takeGroups_pointGroups row_digits threes (takeGroups_comma places ends)]
  dsimp only
  rw [if_pos grouped, takePlaces_numeral more ends rfl fun c comma => .inr (beq_iff_eq.mp comma)]

/-- A number with groups loses their points. -/
theorem dropGrouping_pointGroups (some_lead : 1 ≤ lead.length) (more : AllDigits places) :
    dropGrouping (numeral ',' (lead ++ pointGroups row) places)
      = numeral ',' (lead ++ row) places := by
  rcases exists_pointGroups_eq some_row threes with ⟨rest, begins⟩
  have no_digit : isDigit '.' = false := by decide
  have head := head_pointGroups some_row threes (numeral ',' [] places)
  have stops := takeGroups_comma places endsNumber_nil
  rw [List.append_nil] at stops
  have grouped : isGrouped (numeral ',' (lead ++ pointGroups row) places) = true := by
    rw [numeral_eq_append, List.append_assoc]
    unfold isGrouped
    rw [lead_digits.takeWhile_append head, lead_digits.dropWhile_append head]
    dsimp only
    rw [takeGroups_pointGroups row_digits threes stops]
    by_cases none_place : places = []
    · simp [some_lead, few, begins, none_place, numeral_nil]
    · simpa [some_lead, few, begins, none_place, numeral_of_ne_nil none_place, AllDigits] using more
  have no_point : ∀ c ∈ numeral ',' [] places, c ≠ '.' := by
    rintro c member rfl
    exact not_mem_numeral (List.forall_mem_nil _) more no_digit (by decide) member
  have kept : (numeral ',' [] places).filter (· ≠ '.') = numeral ',' [] places :=
    List.filter_eq_self.mpr fun c member => decide_eq_true (no_point c member)
  rw [dropGrouping, if_pos grouped, numeral_eq_append, List.filter_append, List.filter_append,
    lead_digits.filter_ne no_digit, filter_pointGroups row_digits threes, kept,
    ← numeral_eq_append]

end Grouped

/-! ## Numbers in the notation -/

variable {pointed short : Bool} {cents : Nat}

theorem digitsValue_centDigits (few : cents < 100) : digitsValue (centDigits cents) = cents := by
  have each : ∀ cents < 100, digitsValue (centDigits cents) = cents := by decide
  exact each cents few

theorem allDigits_centPlaces (short : Bool) (cents : Nat) : AllDigits (centPlaces short cents) := by
  have digit : ∀ value < 10, isDigit (Nat.digitChar value) = true := by decide
  unfold centPlaces
  split_ifs
  · exact List.forall_mem_nil _
  · have few : cents % 100 < 100 := Nat.mod_lt _ (by decide)
    simpa [AllDigits, centDigits] using ⟨digit _ (by omega), digit _ (by omega)⟩

theorem digitsValue_brazilian_le (short : Bool) (cents : Nat) :
    digitsValue (Nat.toDigits 10 (cents / 100) ++ centPlaces short cents) ≤ cents := by
  have few : cents % 100 < 100 := Nat.mod_lt _ (by decide)
  unfold centPlaces
  split_ifs
  · rw [List.append_nil, digitsValue_toDigits]
    exact Nat.div_le_self _ _
  · rw [digitsValue_append, digitsValue_toDigits, digitsValue_centDigits few]
    exact (Nat.div_add_mod' cents 100).le

/-- The digits of the notation write the number of cents. -/
theorem isCents_brazilian (short : Bool) (cents : Nat) :
    (finite false (digitsValue (Nat.toDigits 10 (cents / 100) ++ centPlaces short cents))
      (-((centPlaces short cents).length : Int))).IsCents cents := by
  have counted : (cents : ℚ) = 100 * (cents / 100 : Nat) + (cents % 100 : Nat) := by
    exact_mod_cast (Nat.div_add_mod cents 100).symm
  rw [isCents_iff]
  refine ⟨rfl, ?_⟩
  rw [value, Int.cast_natCast, counted]
  unfold centPlaces
  clear counted
  generalize cents / 100 = reais
  split_ifs with whole
  · rw [List.append_nil, digitsValue_toDigits, whole.2]
    simp [signed]
  · have few : cents % 100 < 100 := Nat.mod_lt _ (by decide)
    have hundredth : (10 : ℚ) ^ (-((centDigits (cents % 100)).length : Int)) = 1 / 100 := by
      norm_num [centDigits]
    rw [digitsValue_append, digitsValue_toDigits, digitsValue_centDigits few, hundredth]
    generalize cents % 100 = rest
    simp only [signed, centDigits, List.length_cons, List.length_nil, Bool.false_eq_true, if_false]
    push_cast
    ring

/-- The notation is a plain numeral, or it has groups behind one to three digits. -/
theorem brazilian_cases (pointed short : Bool) (cents : Nat) :
    brazilian pointed short cents
        = numeral ',' (Nat.toDigits 10 (cents / 100)) (centPlaces short cents)
      ∨ ∃ lead row, Nat.toDigits 10 (cents / 100) = lead ++ row
        ∧ brazilian pointed short cents
          = numeral ',' (lead ++ pointGroups row) (centPlaces short cents)
        ∧ AllDigits lead ∧ AllDigits row
        ∧ 1 ≤ lead.length ∧ lead.length ≤ 3 ∧ row ≠ [] ∧ 3 ∣ row.length := by
  cases pointed with
  | false => exact .inl rfl
  | true =>
      rcases groupThousands_cases (Nat.toDigits_ne_nil : Nat.toDigits 10 (cents / 100) ≠ []) with
        same | ⟨lead, row, digits_eq, grouped_eq, sizes⟩
      · rw [brazilian, if_pos rfl, same]
        exact .inl rfl
      · have reais := allDigits_toDigits (cents / 100)
        rw [digits_eq, allDigits_append_iff] at reais
        rw [brazilian, if_pos rfl, grouped_eq]
        exact .inr ⟨lead, row, digits_eq, rfl, reais.1, reais.2, sizes⟩

/-- The notation begins with a digit. -/
theorem startsWithDigit_brazilian (pointed short : Bool) (cents : Nat) (tail : List Char) :
    startsWithDigit (brazilian pointed short cents ++ tail) = true := by
  rcases brazilian_cases pointed short cents with plain |
    ⟨lead, row, -, grouped_eq, lead_digits, -, some_lead, -⟩
  · have begins := startsWithDigit_append (allDigits_toDigits (cents / 100)) Nat.toDigits_ne_nil []
    rw [List.append_nil] at begins
    rw [plain]
    exact startsWithDigit_numeral begins
  · rw [grouped_eq]
    exact startsWithDigit_numeral
      (startsWithDigit_append lead_digits (List.ne_nil_of_length_pos some_lead) _)

/-- The notation is one number, which ends before the text behind it. -/
theorem takeNumber_brazilian (pointed short : Bool) (cents : Nat) (ends : EndsNumber tail) :
    takeNumber (brazilian pointed short cents ++ tail)
      = (brazilian pointed short cents, tail) := by
  have places := allDigits_centPlaces short cents
  rcases brazilian_cases pointed short cents with plain |
    ⟨lead, row, -, grouped_eq, lead_digits, row_digits, -, few, some_row, threes⟩
  · rw [plain]
    exact takeNumber_numeral (allDigits_toDigits _) places ends (.inl rfl)
      (isUngrouped_comma _ ends)
  · rw [grouped_eq]
    exact takeNumber_pointGroups lead_digits few row_digits some_row threes places ends

/-- Without its points, the notation is the numeral of its digits. -/
theorem dropGrouping_brazilian (pointed short : Bool) (cents : Nat) :
    dropGrouping (brazilian pointed short cents)
      = numeral ',' (Nat.toDigits 10 (cents / 100)) (centPlaces short cents) := by
  have places := allDigits_centPlaces short cents
  rcases brazilian_cases pointed short cents with plain |
    ⟨lead, row, digits_eq, grouped_eq, lead_digits, row_digits, some_lead, few, some_row, threes⟩
  · have ungrouped := isUngrouped_comma (centPlaces short cents) endsNumber_nil
    rw [List.append_nil] at ungrouped
    rw [plain]
    exact dropGrouping_numeral (allDigits_toDigits _) (by decide) ungrouped
  · rw [grouped_eq, digits_eq]
    exact dropGrouping_pointGroups lead_digits few row_digits some_row threes some_lead places

/-- The notation is read as the number of cents that it writes. -/
theorem exists_amountOf_eq (pointed short : Bool) {money : MoneyExpression}
    (number : money.number = brazilian pointed short cents) (few : cents < 10 ^ 28) :
    ∃ amount, amountOf money = .ok amount ∧ amount.IsCents cents := by
  have reais := allDigits_toDigits (cents / 100)
  have places := allDigits_centPlaces short cents
  have some_digit : Nat.toDigits 10 (cents / 100) ≠ [] := Nat.toDigits_ne_nil
  have counted := isCents_brazilian short cents
  have short_places : (centPlaces short cents).length ≤ 2 := by
    unfold centPlaces
    split_ifs <;> simp [centDigits]
  have read_eq := ranged_of_lt false (-((centPlaces short cents).length : Int))
    ((digitsValue_brazilian_le short cents).trans_lt few) (by unfold minReadExponent; omega)
    (by unfold maxReadExponent; omega)
  have whole : isWholeCents _ = true := isWholeCents_iff.mpr ⟨cents, counted, few⟩
  refine ⟨_, ?_, counted⟩
  rw [amountOf, number, dropGrouping_brazilian,
    readAmount_numeral reais some_digit places (.inl rfl), read_numeral reais some_digit places,
    read_eq]
  exact if_pos whole

/-! ## Surroundings -/

/-- A blank, or a letter that begins a name of the currency, ends a number. -/
theorem endsNumber_of_head {text : List Char}
    (mark : ∀ c ∈ text.head?, isDigit c = false ∧ c ≠ '.' ∧ c ≠ ',') : EndsNumber text := by
  cases text with
  | nil => exact endsNumber_nil
  | cons c rest =>
      obtain ⟨no_digit, no_point, no_comma⟩ := mark c rfl
      refine ⟨no_digit, ?_⟩
      rintro _ _ ⟨⟩ (point | comma)
      · exact absurd point no_point
      · exact absurd comma no_comma

theorem mark_of_isBlank {c : Char} (blank : isBlank c = true) :
    isDigit c = false ∧ c ≠ '.' ∧ c ≠ ',' := by
  refine ⟨?_, ?_, ?_⟩
  · by_contra digit
    exact Bool.false_ne_true ((isBlank_of_isDigit (Bool.not_eq_false _ ▸ digit)).symm.trans blank)
  · rintro rfl
    exact absurd blank (by decide)
  · rintro rfl
    exact absurd blank (by decide)

theorem mark_of_toLower {c letter : Char} (letter_eq : c.toLower = letter)
    (begins : letter = 'r' ∨ letter = 'b') : isDigit c = false ∧ c ≠ '.' ∧ c ≠ ',' := by
  refine ⟨?_, ?_, ?_⟩
  · by_contra digit
    rw [toLower_of_isDigit (Bool.not_eq_false _ ▸ digit)] at letter_eq
    rcases begins with rfl | rfl <;> rw [letter_eq] at digit <;> exact digit (by decide)
  · rintro rfl
    rcases begins with rfl | rfl <;> exact absurd letter_eq (by decide)
  · rintro rfl
    rcases begins with rfl | rfl <;> exact absurd letter_eq (by decide)

/-- What may stand behind an amount ends its number. -/
theorem endsNumber_of_isCurrencyBack {back after : List Char} (named : IsCurrencyBack back)
    (apart : ∀ c ∈ after.head?, isBlank c = true) : EndsNumber (back ++ after) := by
  apply endsNumber_of_head
  rcases named with rfl | ⟨blanks, word, name, blank, listed, lowered, rfl⟩
  · exact fun c head => mark_of_isBlank (apart c head)
  · cases blanks with
    | cons c rest =>
        rintro _ ⟨⟩
        exact mark_of_isBlank (blank c List.mem_cons_self)
    | nil =>
        have begins : ∀ name ∈ currencyNames, ∃ letter rest, name.toList = letter :: rest
            ∧ (letter = 'r' ∨ letter = 'b') := by
          simp [currencyNames]
        rcases begins name listed with ⟨letter, rest, name_eq, letter_eq⟩
        rw [name_eq, List.map_eq_cons_iff] at lowered
        rcases lowered with ⟨c, others, rfl, first_eq, -⟩
        rintro _ ⟨⟩
        exact mark_of_toLower first_eq letter_eq

/-- No digit stands in a currency mark. -/
theorem digitless_of_isCurrencyFront {front : List Char} (marked : IsCurrencyFront front) :
    IsDigitless front := by
  rcases marked with rfl | ⟨letter, blanks, letter_eq, blank, rfl⟩
  · exact List.forall_mem_nil _
  · rw [isDigitless_cons_iff, isDigitless_cons_iff]
    refine ⟨?_, by decide, fun c member => (mark_of_isBlank (blank c member)).1⟩
    rcases letter_eq with rfl | rfl <;> decide

/-- An amount in Brazilian notation is read as it was written: the expense of a sentence that tells
it first has exactly its number of cents. -/
theorem interpret_brazilian {cents : Nat} (few : cents < 10 ^ 28) (pointed short : Bool)
    {before front back after : List Char} (digitless : IsDigitless before)
    (marked : IsCurrencyFront front) (named : IsCurrencyBack back)
    (apart : ∀ c ∈ after.head?, isBlank c = true) (categories : List Category)
    (rules : List KeywordRule) :
    ∃ draft, interpret (before ++ (front ++ brazilian pointed short cents ++ back) ++ after)
        categories rules = .ok draft
      ∧ draft.kind = .expense ∧ draft.amount.IsCents cents := by
  have ends : EndsNumber (back ++ after) := endsNumber_of_isCurrencyBack named apart
  have no_digit : IsDigitless (before ++ front) :=
    isDigitless_append_iff.mpr ⟨digitless, digitless_of_isCurrencyFront marked⟩
  have text_eq : before ++ (front ++ brazilian pointed short cents ++ back) ++ after
      = (before ++ front) ++ (brazilian pointed short cents ++ (back ++ after)) := by
    simp only [List.append_assoc]
  rcases exists_interpret_eq no_digit
    (startsWithDigit_brazilian pointed short cents (back ++ after)) categories rules with
    ⟨money, number, description, category, told⟩
  rw [takeNumber_brazilian pointed short cents ends] at number
  rcases exists_amountOf_eq pointed short number few with ⟨amount, read, counted⟩
  rw [text_eq, told, read]
  exact ⟨_, rfl, rfl, counted⟩

/-- More than a million reais are read with all their points. -/
theorem interpret_brazilian_car :
    ∃ draft, interpret "Comprei um carro por R$ 1.234.567,89 Reais à vista".toList [] [] = .ok draft
      ∧ draft.kind = .expense ∧ draft.amount.IsCents 123456789 := by
  have text_eq : "Comprei um carro por R$ 1.234.567,89 Reais à vista".toList
      = "Comprei um carro por ".toList
        ++ ("R$ ".toList ++ brazilian true false 123456789 ++ " Reais".toList)
        ++ " à vista".toList := by
    decide
  rw [text_eq]
  exact interpret_brazilian (by decide) true false (by decide)
    (.inr ⟨'R', [' '], .inr rfl, by decide, rfl⟩)
    (.inr ⟨[' '], "Reais".toList, "reais", by decide, by decide, by decide, rfl⟩)
    (by rintro _ ⟨⟩; decide) [] []

end Cashbook.Chat
