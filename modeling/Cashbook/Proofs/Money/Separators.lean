import Cashbook.Proofs.Decimal.Reading
import Cashbook.Proofs.Money.Currency

/-!
# Separators of amounts

Points and commas may stand anywhere in an amount.  The one that comes last is the decimal
separator if there is no other of its kind, and those of the other kind do not count.  So points
and commas may change places, and currency marks may stand anywhere.
-/

namespace Cashbook.Money

open Text Decimal

variable {text bare sign body before whole places : List Char} {c other separator : Char}

/-! ## Texts with and without separators -/

/-- Is a text free of points and commas? -/
def IsUnseparated (text : List Char) : Prop :=
  ∀ c ∈ text, c ≠ '.' ∧ c ≠ ','

theorem isUnseparated_of_allDigits {row : List Char} (digits : AllDigits row) :
    IsUnseparated row :=
  fun c member =>
    ⟨ne_of_isDigit (digits c member) (by decide), ne_of_isDigit (digits c member) (by decide)⟩

theorem IsUnseparated.find?_reverse (unseparated : IsUnseparated text) :
    text.reverse.find? (fun c => c == ',' || c == '.') = none := by
  rw [List.find?_eq_none]
  intro c member
  obtain ⟨no_point, no_comma⟩ := unseparated c (List.mem_reverse.mp member)
  simp [no_point, no_comma]

/-- Without separators there is no last one. -/
theorem IsUnseparated.lastIs_eq (unseparated : IsUnseparated text) :
    lastIs ',' '.' text = false := by
  rw [lastIs, unseparated.find?_reverse]
  rfl

/-- A separator behind which there is no other one is the last. -/
theorem lastIs_append_cons (more : IsUnseparated places)
    (isSeparator : separator = '.' ∨ separator = ',') :
    lastIs ',' '.' (before ++ separator :: places) = decide (separator = ',') := by
  rw [lastIs, List.reverse_append, List.reverse_cons, List.append_assoc, List.find?_append,
    more.find?_reverse]
  rcases isSeparator with rfl | rfl <;> rfl

theorem IsUnseparated.filter_ne (unseparated : IsUnseparated text)
    (isSeparator : separator = '.' ∨ separator = ',') : text.filter (· ≠ separator) = text := by
  rw [List.filter_eq_self]
  intro c member
  rcases isSeparator with rfl | rfl
  · exact decide_eq_true (unseparated c member).1
  · exact decide_eq_true (unseparated c member).2

/-- A text has no separator, or one comes last. -/
theorem isUnseparated_or_last (text : List Char) :
    IsUnseparated text ∨ ∃ before separator rest, text = before ++ separator :: rest
      ∧ (separator = '.' ∨ separator = ',') ∧ IsUnseparated rest := by
  induction text using List.reverseRecOn with
  | nil => exact .inl (List.forall_mem_nil _)
  | append_singleton text c ih =>
      by_cases separates : c = '.' ∨ c = ','
      · exact .inr ⟨text, c, [], rfl, separates, List.forall_mem_nil _⟩
      · rw [not_or] at separates
        have last : IsUnseparated [c] := List.forall_mem_singleton.mpr separates
        rcases ih with unseparated | ⟨before, separator, rest, rfl, isSeparator, unseparated⟩
        · exact .inl (List.forall_mem_append.mpr ⟨unseparated, last⟩)
        · refine .inr ⟨before, separator, rest ++ [c], ?_, isSeparator,
            List.forall_mem_append.mpr ⟨unseparated, last⟩⟩
          rw [List.append_assoc, List.cons_append]

/-- Is a text made of digits, points and commas? -/
def IsSeparated (text : List Char) : Prop :=
  ∀ c ∈ text, isDigit c = true ∨ c = '.' ∨ c = ','

instance (text : List Char) : Decidable (IsSeparated text) :=
  decidable_of_iff (text.all fun c => isDigit c || c == '.' || c == ',')
    (by simp [IsSeparated, or_assoc])

theorem IsSeparated.isBlank_eq (separated : IsSeparated text) :
    ∀ c ∈ text, isBlank c = false := by
  intro c member
  rcases separated c member with digit | rfl | rfl
  · exact isBlank_of_isDigit digit
  · decide
  · decide

/-- Digits, points and commas are no currency marks. -/
theorem IsSeparated.isUnmarked (separated : IsSeparated text) :
    IsUnmarked text := by
  intro c member listed
  have other : ∀ sign ∈ currencySigns, isDigit sign = false ∧ sign ≠ '.' ∧ sign ≠ ',' :=
    forall_mem_currencySigns.mpr (by decide)
  obtain ⟨no_digit, no_point, no_comma⟩ := other c listed
  rcases separated c member with digit | point | comma
  · exact Bool.false_ne_true (no_digit.symm.trans digit)
  · exact no_point point
  · exact no_comma comma

/-! ## Points and commas in each other's place -/

/-- A point for a comma and a comma for a point. -/
def swapSeparator (c : Char) : Char :=
  if c = '.' then ',' else if c = ',' then '.' else c

theorem swapSeparator_of_ne (no_point : c ≠ '.') (no_comma : c ≠ ',') : swapSeparator c = c := by
  rw [swapSeparator, if_neg no_point, if_neg no_comma]

@[simp]
theorem swapSeparator_swapSeparator (c : Char) : swapSeparator (swapSeparator c) = c := by
  by_cases point : c = '.'
  · subst point
    rfl
  · by_cases comma : c = ','
    · subst comma
      rfl
    · rw [swapSeparator_of_ne point comma, swapSeparator_of_ne point comma]

/-- A character takes the place of what takes its place. -/
theorem swapSeparator_eq_iff : swapSeparator c = other ↔ c = swapSeparator other :=
  ⟨fun same => by rw [← same, swapSeparator_swapSeparator],
    fun same => by rw [same, swapSeparator_swapSeparator]⟩

/-- What holds of both separators or of neither holds as well after the exchange. -/
theorem swapSeparator_congr {property : Char → Bool} (same : property '.' = property ',')
    (c : Char) :
    property (swapSeparator c) = property c := by
  unfold swapSeparator
  split_ifs with point comma
  · rw [point, same]
  · rw [comma, same]
  · rfl

theorem trim_map_swapSeparator (text : List Char) :
    trim (text.map swapSeparator) = (trim text).map swapSeparator := by
  have blank : isBlank ∘ swapSeparator = isBlank :=
    funext (swapSeparator_congr (by decide))
  rw [trim, trimBy, List.dropWhile_map, blank, ← List.map_reverse, List.dropWhile_map, blank,
    ← List.map_reverse]
  rfl

/-- No currency mark has a separator in it. -/
theorem dropCurrency_map_swapSeparator (text : List Char) :
    dropCurrency (text.map swapSeparator) = (dropCurrency text).map swapSeparator := by
  have kept : ∀ sign ∈ currencySigns, ∀ c, swapSeparator c = sign ↔ c = sign := by
    intro sign listed c
    have same : ∀ sign ∈ currencySigns, swapSeparator sign = sign :=
      forall_mem_currencySigns.mpr (by decide)
    rw [swapSeparator_eq_iff, same sign listed]
  simp only [currencySigns, List.forall_mem_cons] at kept
  obtain ⟨small, large, dollar, euro, pound, -⟩ := kept
  induction text using dropCurrency.induct with
  | case1 => rfl
  | case2 c isSign => simp [dropCurrency, dollar, euro, pound, isSign]
  | case3 c no_sign => simp [dropCurrency, dollar, euro, pound, no_sign]
  | case4 c next rest mark ih =>
      simp only [List.map_cons, dropCurrency, small, large, dollar, if_pos mark, ih]
  | case5 c next rest no_mark isSign ih =>
      rw [List.map_cons] at ih
      simp only [List.map_cons, dropCurrency, small, large, dollar, euro, pound, if_neg no_mark,
        if_pos isSign, ih]
  | case6 c next rest no_mark no_sign ih =>
      rw [List.map_cons] at ih
      simp only [List.map_cons, dropCurrency, small, large, dollar, euro, pound, if_neg no_mark,
        if_neg no_sign, ih]

/-! ## The decimal separator -/

theorem IsUnseparated.map_swapSeparator (unseparated : IsUnseparated text) :
    text.map swapSeparator = text := by
  rw [List.map_congr_left fun c member =>
    swapSeparator_of_ne (unseparated c member).1 (unseparated c member).2, List.map_id']

/-- Without separators there is nothing to leave out. -/
theorem normalizeSeparators_of_isUnseparated (unseparated : IsUnseparated text) :
    normalizeSeparators text = text := by
  rw [normalizeSeparators, unseparated.lastIs_eq, if_neg Bool.false_ne_true,
    unseparated.filter_ne (.inr rfl)]

/-- Behind the last point, commas do not count. -/
theorem normalizeSeparators_point (unseparated : IsUnseparated places) :
    normalizeSeparators (before ++ '.' :: places) = before.filter (· ≠ ',') ++ '.' :: places := by
  rw [normalizeSeparators, lastIs_append_cons unseparated (.inl rfl), if_neg (by decide),
    List.filter_append, List.filter_cons_of_pos (by decide), unseparated.filter_ne (.inr rfl)]

/-- Behind the last comma, points do not count. -/
theorem normalizeSeparators_comma (unseparated : IsUnseparated places) :
    normalizeSeparators (before ++ ',' :: places)
      = (before.filter (· ≠ '.')).map swapSeparator ++ '.' :: places := by
  have same : ∀ c ∈ before.filter (· ≠ '.'), (if c = ',' then '.' else c) = swapSeparator c := by
    intro c member
    have no_point : c ≠ '.' := of_decide_eq_true (List.mem_filter.mp member).2
    rw [swapSeparator, if_neg no_point]
  have kept : places.map (fun c => if c = ',' then '.' else c) = places := by
    rw [List.map_congr_left fun c member => if_neg (unseparated c member).2, List.map_id']
  rw [normalizeSeparators, lastIs_append_cons unseparated (.inr rfl), if_pos (by decide),
    List.filter_append, List.filter_cons_of_pos (by decide), unseparated.filter_ne (.inl rfl),
    List.map_append, List.map_congr_left same, List.map_cons, kept]
  rfl

/-- It does not matter which separator is which. -/
theorem normalizeSeparators_map_swapSeparator (text : List Char) :
    normalizeSeparators (text.map swapSeparator) = normalizeSeparators text := by
  have kept : ∀ (front : List Char) (one other : Char),
      (∀ c, swapSeparator c = one ↔ c = other) →
      (front.map swapSeparator).filter (· ≠ one)
        = (front.filter (· ≠ other)).map swapSeparator := by
    intro front one other exchanged
    rw [List.filter_map]
    congr 1
    refine List.filter_congr fun c _ => ?_
    simp only [Function.comp_apply, ne_eq, exchanged]
  have twice : swapSeparator ∘ swapSeparator = id := funext swapSeparator_swapSeparator
  rcases isUnseparated_or_last text with
    unseparated | ⟨before, separator, rest, rfl, rfl | rfl, unseparated⟩
  · rw [unseparated.map_swapSeparator]
  · have comma : swapSeparator '.' = ',' := rfl
    rw [List.map_append, List.map_cons, comma, unseparated.map_swapSeparator,
      normalizeSeparators_comma unseparated, normalizeSeparators_point unseparated,
      kept before '.' ',' fun c => swapSeparator_eq_iff, List.map_map, twice, List.map_id]
  · have point : swapSeparator ',' = '.' := rfl
    rw [List.map_append, List.map_cons, point, unseparated.map_swapSeparator,
      normalizeSeparators_comma unseparated, normalizeSeparators_point unseparated,
      kept before ',' '.' fun c => swapSeparator_eq_iff]

/-- An amount is the same with a point for each comma and a comma for each point. -/
theorem readAmount_map_swapSeparator (text : List Char) :
    readAmount (text.map swapSeparator) = readAmount text := by
  have numeral_eq : numeralOf (text.map swapSeparator) = numeralOf text := by
    rw [numeralOf, trim_map_swapSeparator, dropCurrency_map_swapSeparator, trim_map_swapSeparator,
      normalizeSeparators_map_swapSeparator]
    rfl
  have nothing : trim (text.map swapSeparator) = [] ↔ trim text = [] := by
    rw [trim_map_swapSeparator, List.map_eq_nil_iff]
  simp only [readAmount, numeral_eq, nothing]

/-! ## Digits between separators -/

/-- The digits before and behind the decimal separator, which comes last and is the only one of its
kind; without separators there are digits only.  Separators of the other kind do not count. -/
inductive IsSplit : List Char → List Char → List Char → Prop
  | whole {whole : List Char} (digits : AllDigits whole) : IsSplit whole whole []
  | places {before places : List Char} {separator : Char}
      (isSeparator : separator = '.' ∨ separator = ',') (single : separator ∉ before)
      (last : AllDigits places) :
      IsSplit (before ++ separator :: places) (before.filter isDigit) places

theorem allDigits_filter (text : List Char) : AllDigits (text.filter isDigit) :=
  fun _ member => (List.mem_filter.mp member).2

theorem isUnseparated_of_mem_signTexts (isSign : sign ∈ signTexts) : IsUnseparated sign := by
  intro c member
  rcases eq_of_mem_sign isSign member with rfl | rfl <;> decide

/-- A row of digits with a sign is a whole number. -/
theorem read_normalizeSeparators_of_allDigits (isSign : sign ∈ signTexts)
    (digits : AllDigits whole) :
    Decimal.read (normalizeSeparators (sign ++ whole))
      = if whole = [] then .error .malformed
        else ranged (decide (sign = ['-'])) (digitsValue whole) 0 := by
  have unseparated : IsUnseparated (sign ++ whole) := List.forall_mem_append.mpr
    ⟨isUnseparated_of_mem_signTexts isSign, isUnseparated_of_allDigits digits⟩
  have pointed : IsPointed whole := fun c member => .inl (digits c member)
  rw [normalizeSeparators_of_isUnseparated unseparated, pointed.read_append isSign]
  split_ifs with nothing
  · rw [nothing]
    rfl
  · exact readNumeral_of_allDigits _ digits nothing

/-- The digits before the first point. -/
theorem exists_point_of_isPointed (pointed : IsPointed text) (member : '.' ∈ text) :
    ∃ digits rest, text = digits ++ '.' :: rest ∧ AllDigits digits ∧ IsPointed rest := by
  obtain ⟨digits, rest, rfl, first⟩ := List.eq_append_cons_of_mem member
  rw [IsPointed, List.forall_mem_append, List.forall_mem_cons] at pointed
  refine ⟨digits, rest, rfl, fun c inside => ?_, pointed.2.2⟩
  rcases pointed.1 c inside with digit | rfl
  · exact digit
  · exact absurd inside first

theorem IsPointed.append_point {first : List Char} (pointed : IsPointed first)
    (more : AllDigits places) : IsPointed (first ++ '.' :: places) :=
  List.forall_mem_append.mpr
    ⟨pointed, List.forall_mem_cons.mpr ⟨.inr rfl, fun c member => .inl (more c member)⟩⟩

/-- A number with a point before its last one is none: behind the first point there is another one,
at the latest the last. -/
theorem readNumeral_of_mem_point {first : List Char} (pointed : IsPointed first)
    (another : '.' ∈ first) (more : AllDigits places) (negative : Bool) :
    readNumeral negative (first ++ '.' :: places) = .error .malformed := by
  obtain ⟨front, behind, rfl, front_digits, behind_pointed⟩ :=
    exists_point_of_isPointed pointed another
  have last : '.' ∈ behind ++ '.' :: places := List.mem_append_right _ List.mem_cons_self
  obtain ⟨middle, rest, behind_eq, middle_digits, -⟩ :=
    exists_point_of_isPointed (IsPointed.append_point behind_pointed more) last
  rw [List.append_assoc, List.cons_append, behind_eq]
  exact readNumeral_second_point negative front_digits middle_digits rest

/-- Without commas only digits and points are left. -/
theorem IsSeparated.isPointed_filter (separated : IsSeparated text) :
    IsPointed (text.filter (· ≠ ',')) := by
  intro c member
  obtain ⟨inside, no_comma⟩ := List.mem_filter.mp member
  rcases separated c inside with digit | point | comma
  · exact .inl digit
  · exact .inr point
  · exact absurd comma (of_decide_eq_true no_comma)

/-- Without commas and points only digits are left. -/
theorem IsSeparated.filter_eq (separated : IsSeparated text) (no_point : '.' ∉ text) :
    text.filter (· ≠ ',') = text.filter isDigit := by
  refine List.filter_congr fun c member => ?_
  rcases separated c member with digit | rfl | rfl
  · rw [digit, decide_eq_true (ne_of_isDigit digit (by decide))]
  · exact absurd member no_point
  · decide

/-- A point that comes last separates decimal places, if it is the only one and there are digits
around it. -/
theorem read_normalizeSeparators_point (isSign : sign ∈ signTexts) (separated : IsSeparated before)
    (more : AllDigits places) :
    Decimal.read (normalizeSeparators (sign ++ (before ++ '.' :: places)))
      = if '.' ∈ before ∨ before.filter isDigit ++ places = [] then .error .malformed
        else ranged (decide (sign = ['-'])) (digitsValue (before.filter isDigit ++ places))
          (-(places.length : Int)) := by
  have pointed := separated.isPointed_filter
  rw [← List.append_assoc, normalizeSeparators_point (isUnseparated_of_allDigits more),
    List.filter_append, (isUnseparated_of_mem_signTexts isSign).filter_ne (.inr rfl),
    List.append_assoc, (IsPointed.append_point pointed more).read_append isSign]
  by_cases another : '.' ∈ before
  · rw [if_pos (.inl another)]
    exact readNumeral_of_mem_point pointed (List.mem_filter.mpr ⟨another, by decide⟩) more _
  · rw [separated.filter_eq another]
    by_cases nothing : before.filter isDigit ++ places = []
    · rw [if_pos (.inr nothing), (List.append_eq_nil_iff.mp nothing).1,
        (List.append_eq_nil_iff.mp nothing).2]
      rfl
    · rw [if_neg (not_or.mpr ⟨another, nothing⟩)]
      exact readNumeral_point _ (allDigits_filter before) more nothing

/-- No digit changes its place with another one. -/
theorem isDigit_comp_swapSeparator : isDigit ∘ swapSeparator = isDigit :=
  funext (swapSeparator_congr (by decide))

theorem IsSeparated.map_swapSeparator (separated : IsSeparated text) :
    IsSeparated (text.map swapSeparator) := by
  intro c member
  rcases List.mem_map.mp member with ⟨d, inside, rfl⟩
  rcases separated d inside with digit | rfl | rfl
  · exact .inl ((congrFun isDigit_comp_swapSeparator d).trans digit)
  · exact .inr (.inr rfl)
  · exact .inr (.inl rfl)

theorem filter_isDigit_map_swapSeparator (text : List Char) :
    (text.map swapSeparator).filter isDigit = text.filter isDigit := by
  rw [List.filter_map, isDigit_comp_swapSeparator,
    (isUnseparated_of_allDigits (allDigits_filter text)).map_swapSeparator]

theorem point_mem_map_swapSeparator_iff : '.' ∈ text.map swapSeparator ↔ ',' ∈ text := by
  rw [List.mem_map]
  constructor
  · rintro ⟨c, member, point⟩
    rwa [swapSeparator_eq_iff.mp point] at member
  · exact fun member => ⟨',', member, rfl⟩

/-- Either separator that comes last separates decimal places so. -/
theorem read_normalizeSeparators_last (isSign : sign ∈ signTexts) (separated : IsSeparated before)
    (more : AllDigits places) (isSeparator : separator = '.' ∨ separator = ',') :
    Decimal.read (normalizeSeparators (sign ++ (before ++ separator :: places)))
      = if separator ∈ before ∨ before.filter isDigit ++ places = [] then .error .malformed
        else ranged (decide (sign = ['-'])) (digitsValue (before.filter isDigit ++ places))
          (-(places.length : Int)) := by
  rcases isSeparator with rfl | rfl
  · exact read_normalizeSeparators_point isSign separated more
  · have exchanged : (sign ++ (before ++ ',' :: places)).map swapSeparator
        = sign ++ (before.map swapSeparator ++ '.' :: places) := by
      rw [List.map_append, List.map_append, List.map_cons,
        (isUnseparated_of_mem_signTexts isSign).map_swapSeparator,
        (isUnseparated_of_allDigits more).map_swapSeparator]
      rfl
    rw [← normalizeSeparators_map_swapSeparator, exchanged,
      read_normalizeSeparators_point isSign separated.map_swapSeparator more,
      filter_isDigit_map_swapSeparator]
    simp only [point_mem_map_swapSeparator_iff]

/-! ## Amounts -/

/-- Digits, points and commas are digits only, or there are digits behind the last separator. -/
theorem allDigits_or_last (separated : IsSeparated body) :
    AllDigits body ∨ ∃ before separator places, body = before ++ separator :: places
      ∧ (separator = '.' ∨ separator = ',') ∧ IsSeparated before ∧ AllDigits places := by
  have digits : ∀ {row : List Char}, IsSeparated row → IsUnseparated row → AllDigits row := by
    intro row row_separated unseparated c member
    rcases row_separated c member with digit | point | comma
    · exact digit
    · exact absurd point (unseparated c member).1
    · exact absurd comma (unseparated c member).2
  rcases isUnseparated_or_last body with
    unseparated | ⟨before, separator, places, rfl, isSeparator, unseparated⟩
  · exact .inl (digits separated unseparated)
  · rw [IsSeparated, List.forall_mem_append, List.forall_mem_cons] at separated
    exact .inr ⟨before, separator, places, rfl, isSeparator, separated.1,
      digits separated.2.2 unseparated⟩

/-- A numeral that is split is read if there are digits around the split. -/
theorem read_normalizeSeparators_of_isSplit (isSign : sign ∈ signTexts)
    (separated : IsSeparated body) (split : IsSplit body whole places) :
    Decimal.read (normalizeSeparators (sign ++ body))
      = if whole ++ places = [] then .error .malformed
        else ranged (decide (sign = ['-'])) (digitsValue (whole ++ places))
          (-(places.length : Int)) := by
  cases split with
  | whole digits =>
      rw [read_normalizeSeparators_of_allDigits isSign digits, List.append_nil]
      rfl
  | places isSeparator single last =>
      rw [IsSeparated, List.forall_mem_append] at separated
      rw [read_normalizeSeparators_last isSign separated.1 last isSeparator]
      simp only [single, false_or]

/-- A numeral that cannot be split is not read. -/
theorem isSplit_or_malformed (isSign : sign ∈ signTexts) (separated : IsSeparated body) :
    (∃ whole places, IsSplit body whole places)
      ∨ Decimal.read (normalizeSeparators (sign ++ body)) = .error .malformed := by
  rcases allDigits_or_last separated with
    digits | ⟨before, separator, places, rfl, isSeparator, before_separated, last⟩
  · exact .inl ⟨body, [], .whole digits⟩
  · by_cases another : separator ∈ before
    · right
      rw [read_normalizeSeparators_last isSign before_separated last isSeparator,
        if_pos (.inl another)]
    · exact .inl ⟨_, places, .places isSeparator another last⟩

/-- What is read is split, and it is the exact number that the digits write. -/
theorem exists_isSplit_of_read (isSign : sign ∈ signTexts) (separated : IsSeparated body)
    {amount : Decimal} (read : Decimal.read (normalizeSeparators (sign ++ body)) = .ok amount) :
    ∃ whole places, IsSplit body whole places ∧ whole ++ places ≠ []
      ∧ amount = finite (decide (sign = ['-'])) (digitsValue (whole ++ places))
        (-(places.length : Int)) := by
  rcases isSplit_or_malformed isSign separated with ⟨whole, places, split⟩ | malformed
  · rw [read_normalizeSeparators_of_isSplit isSign separated split] at read
    split_ifs at read with nothing
    exact ⟨whole, places, split, nothing, eq_finite_of_ranged read⟩
  · cases malformed.symm.trans read

/-- The last separator of a text. -/
def lastSeparator? (text : List Char) : Option Char :=
  (text.filter fun c => c == '.' || c == ',').getLast?

theorem IsUnseparated.filter_eq_nil (unseparated : IsUnseparated text) :
    (text.filter fun c => c == '.' || c == ',') = [] := by
  rw [List.filter_eq_nil_iff]
  intro c member
  simp [unseparated c member]

theorem lastSeparator?_of_isUnseparated (unseparated : IsUnseparated text) :
    lastSeparator? text = none := by
  rw [lastSeparator?, unseparated.filter_eq_nil]
  rfl

theorem lastSeparator?_append_cons (isSeparator : separator = '.' ∨ separator = ',')
    (unseparated : IsUnseparated places) :
    lastSeparator? (before ++ separator :: places) = some separator := by
  have kept : (separator == '.' || separator == ',') = true := by
    rcases isSeparator with rfl | rfl <;> rfl
  rw [lastSeparator?, List.filter_append, List.filter_cons, if_pos kept, unseparated.filter_eq_nil]
  exact List.getLast?_concat

/-- The digits behind a separator count for nothing. -/
theorem count_append_cons (isSeparator : separator = '.' ∨ separator = ',')
    (last : AllDigits places) :
    (before ++ separator :: places).count separator = before.count separator + 1 := by
  have absent : separator ∉ places := by
    rcases isSeparator with rfl | rfl <;> exact last.not_mem (by decide)
  rw [List.count_append, List.count_cons_self, List.count_eq_zero.mpr absent]

/-- The digits around the split are those of the numeral. -/
theorem IsSplit.mem_append_iff (split : IsSplit body whole places) :
    c ∈ whole ++ places ↔ c ∈ body ∧ isDigit c = true := by
  cases split with
  | whole digits =>
      rw [List.append_nil]
      exact ⟨fun member => ⟨member, digits c member⟩, And.left⟩
  | @places before places separator isSeparator single last =>
      have no_digit : isDigit separator = false := by
        rcases isSeparator with rfl | rfl <;> decide
      rw [List.mem_append, List.mem_append, List.mem_cons, List.mem_filter]
      constructor
      · rintro (⟨inside, digit⟩ | inside)
        · exact ⟨.inl inside, digit⟩
        · exact ⟨.inr (.inr inside), last c inside⟩
      · rintro ⟨inside | rfl | inside, digit⟩
        · exact .inl ⟨inside, digit⟩
        · exact absurd (no_digit.symm.trans digit) Bool.false_ne_true
        · exact .inr inside

/-- A numeral can be split exactly if there is no second separator of the last one's kind. -/
theorem exists_isSplit_iff (separated : IsSeparated body) :
    (∃ whole places, IsSplit body whole places)
      ↔ ∀ separator ∈ lastSeparator? body, body.count separator = 1 := by
  constructor
  · rintro ⟨whole, places, split⟩
    cases split with
    | whole digits =>
        rw [lastSeparator?_of_isUnseparated (isUnseparated_of_allDigits digits)]
        nofun
    | places isSeparator single last =>
        rw [lastSeparator?_append_cons isSeparator (isUnseparated_of_allDigits last)]
        rintro _ ⟨⟩
        rw [count_append_cons isSeparator last, List.count_eq_zero.mpr single]
  · intro single
    rcases allDigits_or_last separated with
      digits | ⟨before, separator, places, rfl, isSeparator, -, last⟩
    · exact ⟨body, [], .whole digits⟩
    · have counted := single separator
        (lastSeparator?_append_cons isSeparator (isUnseparated_of_allDigits last))
      rw [count_append_cons isSeparator last, Nat.add_eq_right, List.count_eq_zero] at counted
      exact ⟨_, places, .places isSeparator counted last⟩

/-- It is split around some digit exactly if it has a digit. -/
theorem exists_isSplit_ne_nil_iff (separated : IsSeparated body) :
    (∃ whole places, IsSplit body whole places ∧ whole ++ places ≠ [])
      ↔ (∃ c ∈ body, isDigit c = true)
        ∧ ∀ separator ∈ lastSeparator? body, body.count separator = 1 := by
  rw [← exists_isSplit_iff separated]
  constructor
  · rintro ⟨whole, places, split, some_digit⟩
    obtain ⟨c, member⟩ := List.exists_mem_of_ne_nil _ some_digit
    exact ⟨⟨c, split.mem_append_iff.mp member⟩, whole, places, split⟩
  · rintro ⟨⟨c, digit⟩, whole, places, split⟩
    exact ⟨whole, places, split, List.ne_nil_of_mem (split.mem_append_iff.mpr digit)⟩

theorem isUnmarked_of_mem_signTexts (isSign : sign ∈ signTexts) : IsUnmarked sign := by
  intro c member
  rcases eq_of_mem_sign isSign member with rfl | rfl <;> decide

/-- A number with a sign and separators has no currency marks, with blanks around it or without. -/
theorem isUnmarked_of_trim (trimmed : trim bare = sign ++ body) (isSign : sign ∈ signTexts)
    (separated : IsSeparated body) : IsUnmarked bare := by
  rcases exists_eq_trim bare with ⟨-, before, after, blank_before, blank_after, bare_eq⟩
  rw [bare_eq, trimmed, isUnmarked_append_iff, isUnmarked_append_iff, isUnmarked_append_iff]
  exact ⟨⟨isUnmarked_of_allBlank blank_before, isUnmarked_of_mem_signTexts isSign,
    separated.isUnmarked⟩, isUnmarked_of_allBlank blank_after⟩

/-- An amount is read as its numeral without currency marks is. -/
theorem readAmount_of_read {numeral : List Char} {number : Decimal}
    (stripped : trim (dropCurrency text) = numeral) (some_char : numeral ≠ [])
    (read_eq : Decimal.read (normalizeSeparators numeral) = .ok number)
    (bounded : number.isFinite = true) : readAmount text = .ok number := by
  have shown : trim text ≠ [] := by
    intro nothing
    rw [← trim_dropCurrency_trim, nothing] at stripped
    exact some_char stripped.symm
  rw [readAmount, if_neg shown, numeralOf, trim_dropCurrency_trim, stripped]
  dsimp only
  rw [read_eq]
  exact if_pos bounded

theorem IsSplit.length_le (split : IsSplit body whole places) :
    (whole ++ places).length ≤ body.length := by
  cases split with
  | whole digits => rw [List.append_nil]
  | @places before places separator isSeparator single last =>
      have fewer := List.length_filter_le isDigit before
      simp only [List.length_append, List.length_cons]
      omega

/-- In reach, a split amount stays in the range of what can be read. -/
theorem IsSplit.ranged_eq (split : IsSplit body whole places) (reach : IsInReach body)
    (negative : Bool) :
    ranged negative (digitsValue (whole ++ places)) (-(places.length : Int))
      = .ok (finite negative (digitsValue (whole ++ places)) (-(places.length : Int))) :=
  ranged_of_isInReach negative (lt_of_le_of_lt split.length_le reach) (by simp)

theorem numeralOf_of_stripped (stripped : trim (dropCurrency text) = bare) :
    numeralOf text = normalizeSeparators bare := by
  rw [numeralOf, trim_dropCurrency_trim, stripped]

section Stripped

variable (stripped : trim (dropCurrency text) = sign ++ body) (isSign : sign ∈ signTexts)
  (separated : IsSeparated body)

include stripped isSign separated

/-- A split amount is read as the exact number that its digits write. -/
theorem readAmount_of_isSplit {number : Decimal} (split : IsSplit body whole places)
    (some_digit : whole ++ places ≠ [])
    (in_range : ranged (decide (sign = ['-'])) (digitsValue (whole ++ places))
      (-(places.length : Int)) = .ok number) : readAmount text = .ok number := by
  have some_char : sign ++ body ≠ [] := by
    refine List.append_ne_nil_of_right_ne_nil _ ?_
    rintro rfl
    exact some_digit (List.eq_nil_of_length_eq_zero (Nat.le_zero.mp split.length_le))
  refine readAmount_of_read stripped some_char ?_ (by rw [eq_finite_of_ranged in_range]; rfl)
  rw [read_normalizeSeparators_of_isSplit isSign separated split, if_neg some_digit, in_range]

/-- An amount that is read is split, and it is the exact number that its digits write. -/
theorem exists_isSplit_of_readAmount {amount : Decimal} (read : readAmount text = .ok amount) :
    ∃ whole places, IsSplit body whole places ∧ whole ++ places ≠ []
      ∧ amount = finite (decide (sign = ['-'])) (digitsValue (whole ++ places))
        (-(places.length : Int)) := by
  rw [readAmount, numeralOf_of_stripped stripped] at read
  dsimp only at read
  split_ifs at read
  split at read
  next found number =>
    split_ifs at read
    cases read
    exact exists_isSplit_of_read isSign separated number
  next => cases read

/-- An amount is refused only as no number. -/
theorem error_of_readAmount {error : AmountError} (refused : readAmount text = .error error) :
    error = .empty ∨ ∃ cause, error = .unreadable (numeralOf text) cause := by
  rw [readAmount] at refused
  split_ifs at refused
  · exact .inl (Except.error.inj refused).symm
  · dsimp only at refused
    split at refused
    next found number =>
      rw [numeralOf_of_stripped stripped] at number
      obtain ⟨whole, places, -, -, rfl⟩ := exists_isSplit_of_read isSign separated number
      cases refused
    next cause unread =>
      cases refused
      exact .inr ⟨cause, rfl⟩

end Stripped

/-- An amount with a sign and separators, and with currency marks and blanks anywhere, is read in
reach exactly if it has a digit and its last separator is the only one of its kind.  What is read is
the exact number with the digits behind that separator as its places; separators of the other kind
do not count, so points and commas may change places.  Every other one is refused as no number. -/
theorem readAmount_of_isMarked (marked : IsMarked text bare) (trimmed : trim bare = sign ++ body)
    (isSign : sign ∈ signTexts) (separated : IsSeparated body) :
    (IsInReach body →
        ((∃ amount, readAmount text = .ok amount)
          ↔ (∃ c ∈ body, isDigit c = true)
            ∧ ∀ separator ∈ lastSeparator? body, body.count separator = 1))
      ∧ (∀ amount, readAmount text = .ok amount →
        ∃ whole places, IsSplit body whole places
          ∧ amount = finite (decide (sign = ['-'])) (digitsValue (whole ++ places))
            (-(places.length : Int)))
      ∧ (∀ error, readAmount text = .error error →
        error = .empty ∨ ∃ cause, error = .unreadable (numeralOf text) cause)
      ∧ readAmount (text.map swapSeparator) = readAmount text := by
  have stripped : trim (dropCurrency text) = sign ++ body := by
    rw [(dropCurrency_eq_iff (isUnmarked_of_trim trimmed isSign separated)).mpr marked, trimmed]
  refine ⟨fun reach => ?_, fun amount read => ?_,
    fun error => error_of_readAmount stripped isSign separated, readAmount_map_swapSeparator text⟩
  · rw [← exists_isSplit_ne_nil_iff separated]
    constructor
    · rintro ⟨amount, read⟩
      obtain ⟨whole, places, split, some_digit, -⟩ :=
        exists_isSplit_of_readAmount stripped isSign separated read
      exact ⟨whole, places, split, some_digit⟩
    · rintro ⟨whole, places, split, some_digit⟩
      exact ⟨_, readAmount_of_isSplit stripped isSign separated split some_digit
        (split.ranged_eq reach _)⟩
  · obtain ⟨whole, places, split, -, amount_eq⟩ :=
      exists_isSplit_of_readAmount stripped isSign separated read
    exact ⟨whole, places, split, amount_eq⟩

theorem readAmount_of_isMarked_euros :
    IsMarked "R$ -1.234,50 €".toList " -1.234,50 ".toList
      ∧ trim " -1.234,50 ".toList = ['-'] ++ "1.234,50".toList ∧ ['-'] ∈ signTexts
      ∧ IsSeparated "1.234,50".toList ∧ IsInReach "1.234,50".toList
      ∧ readAmount "R$ -1.234,50 €".toList = .ok (finite true 123450 (-2))
      ∧ readAmount "R$ -1,234.50 €".toList = .ok (finite true 123450 (-2)) := by
  have trimmed : trim " -1.234,50 ".toList = ['-'] ++ "1.234,50".toList := by decide
  have isSign : ['-'] ∈ signTexts := by decide
  have separated : IsSeparated "1.234,50".toList := by decide
  have marked : IsMarked "R$ -1.234,50 €".toList " -1.234,50 ".toList :=
    (dropCurrency_eq_iff (isUnmarked_of_trim trimmed isSign separated)).mp (by decide)
  have reach : IsInReach "1.234,50".toList := by decide
  obtain ⟨accepted, -, -, exchanged⟩ := readAmount_of_isMarked marked trimmed isSign separated
  have last : lastSeparator? "1.234,50".toList = some ',' := by decide
  have single : ∀ separator ∈ lastSeparator? "1.234,50".toList,
      "1.234,50".toList.count separator = 1 := by
    rw [last]
    rintro _ ⟨⟩
    decide
  obtain ⟨amount, read⟩ := (accepted reach).mpr ⟨⟨'1', by decide, by decide⟩, single⟩
  have amount_eq : (readAmount "R$ -1.234,50 €".toList).toOption
      = some (finite true 123450 (-2)) := by
    decide +kernel
  rw [read] at amount_eq
  cases amount_eq
  exact ⟨marked, trimmed, isSign, separated, reach, read, Eq.trans exchanged read⟩

end Cashbook.Money
