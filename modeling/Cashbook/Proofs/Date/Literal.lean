import Cashbook.Proofs.CommandLine.Plan
import Cashbook.Proofs.Date.Months
import Cashbook.Proofs.Decimal.Printing
import Cashbook.Proofs.Integer

/-!
# Dates written as year, month and day

A date of four digits, two digits and two digits, joined by hyphens, names this date and no other.
The first number has more than two digits, so it is the year with its century; the two behind it
are the month and the day in this order, however small they are, and the current day fills nothing
in.
-/

namespace Cashbook.Date

open Text Decimal

variable {date today : Date} {width number : Nat}

/-- Do the days before and after a date exist? -/
def HasNeighbours (date : Date) : Prop :=
  date.previous?.isSome = true ∧ date.next?.isSome = true

instance : DecidablePred HasNeighbours :=
  fun _ => inferInstanceAs (Decidable (_ ∧ _))

/-! ## Rows of plain digits -/

/-- Is a row of plain digits the numeral of a number in so many places? -/
structure IsRow (row : List Char) (width number : Nat) : Prop where
  plain : ∀ c ∈ row, c.isDigit = true
  length_eq : row.length = width
  value_eq : digitsValue row = number

/-- A number with zeros in front fills its places. -/
theorem isRow_padded (some_place : 0 < width) (few : number < 10 ^ width) :
    IsRow (padded width number) width number where
  plain := by
    intro c member
    rcases List.mem_append.mp member with zero | inside
    · rw [List.eq_of_mem_replicate zero]
      decide
    · exact Nat.isDigit_of_mem_toDigits (by decide) le_rfl inside
  length_eq := by
    have short := (Nat.length_toDigits_le_iff (by decide) some_place).mpr few
    rw [padded, List.length_append, List.length_replicate]
    omega
  value_eq := by
    rw [padded, digitsValue_replicate_zero, digitsValue_toDigits]

namespace IsRow

variable {row : List Char} (isRow : IsRow row width number)

include isRow

theorem allDigits : AllDigits row :=
  fun c member => isDigit_of_plain (isRow.plain c member)

theorem all_showsDigit : row.all showsDigit = true :=
  List.all_eq_true.mpr fun c member => by rw [showsDigit, isRow.allDigits c member, Bool.true_or]

theorem ne_nil (some_place : 0 < width) : row ≠ [] := by
  rintro rfl
  exact some_place.ne isRow.length_eq

end IsRow

/-- The rows of a date. -/
theorem isRow_parts (date : Date) :
    IsRow (padded 4 date.year) 4 date.year ∧ IsRow (padded 2 date.month) 2 date.month
      ∧ IsRow (padded 2 date.day) 2 date.day := by
  obtain ⟨⟨-, year_le⟩, ⟨-, month_le⟩, -, day_le⟩ := date.valid
  have short := daysInMonth_le date.year date.month
  exact ⟨isRow_padded (by decide) (by omega), isRow_padded (by decide) (by omega),
    isRow_padded (by decide) (by omega)⟩

namespace Phrase

/-! ## Tokens -/

variable {c : Char} {digits rest : List Char}

/-- A plain digit begins a number. -/
theorem start_of_plain (plain : c.isDigit = true) : start c = .inl ⟨.number, [c], false⟩ := by
  have last : c.toNat ≤ 57 := (Char.isDigit_iff_toNat.mp plain).2
  have letterless : isLetter c = false :=
    of_latin (fun c => c.isDigit = true → isLetter c = false) (by decide +kernel) (by omega) plain
  have digit : showsDigit c = true := by rw [showsDigit, isDigit_of_plain plain, Bool.true_or]
  rw [start, letterless, digit]
  rfl

/-- Digits continue a number. -/
theorem tokensAfter_digits (reversed : List Char) (all : digits.all showsDigit = true) :
    tokensAfter (some ⟨.number, reversed, false⟩) (digits ++ rest)
      = tokensAfter (some ⟨.number, digits.reverse ++ reversed, false⟩) rest := by
  induction digits generalizing reversed with
  | nil => rfl
  | cons c digits ih =>
      rw [List.all_cons, Bool.and_eq_true] at all
      have longer : Run.extend? ⟨.number, reversed, false⟩ c
          = some ⟨.number, c :: reversed, false⟩ := if_pos all.1
      rw [List.cons_append, tokensAfter, longer]
      dsimp only
      rw [ih (c :: reversed) all.2, List.reverse_cons, List.append_assoc]
      rfl

/-- A row of plain digits is a number under way. -/
theorem tokensAfter_row {row : List Char} (isRow : IsRow row width number)
    (some_place : 0 < width) (rest : List Char) :
    tokensAfter none (row ++ rest) = tokensAfter (some ⟨.number, row.reverse, false⟩) rest := by
  obtain ⟨c, digits, rfl⟩ := List.exists_cons_of_ne_nil (isRow.ne_nil some_place)
  have shown := isRow.all_showsDigit
  rw [List.all_cons, Bool.and_eq_true] at shown
  rw [List.cons_append, tokensAfter, start_of_plain (isRow.plain c List.mem_cons_self)]
  dsimp only
  rw [tokensAfter_digits [c] shown.2, List.reverse_cons]

/-- A hyphen ends a number and is a token of its own. -/
theorem tokensAfter_hyphen (reversed rest : List Char) :
    tokensAfter (some ⟨.number, reversed, false⟩) ('-' :: rest)
      = reversed.reverse :: ['-'] :: tokensAfter none rest :=
  rfl

/-! ## Rows joined by hyphens -/

/-- Three rows with hyphens between them. -/
def joined (year month day : List Char) : List Char :=
  year ++ '-' :: month ++ '-' :: day

section Joined

variable {year month day : List Char} {y m d : Nat} (isYear : IsRow year 4 y)
  (isMonth : IsRow month 2 m) (isDay : IsRow day 2 d)

include isYear isMonth isDay

theorem plain_or_hyphen_of_mem : ∀ c ∈ joined year month day, c.isDigit = true ∨ c = '-' := by
  intro c member
  simp only [joined, List.mem_append, List.mem_cons] at member
  rcases member with (inside | rfl | inside) | rfl | inside
  · exact .inl (isYear.plain c inside)
  · exact .inr rfl
  · exact .inl (isMonth.plain c inside)
  · exact .inr rfl
  · exact .inl (isDay.plain c inside)

/-- Nothing changes where letters are made small, and no blank is trimmed away. -/
theorem lower_trim_joined {before after : List Char} (blank_before : AllBlank before)
    (blank_after : AllBlank after) :
    lower (trim (before ++ joined year month day ++ after)) = joined year month day := by
  have marks := plain_or_hyphen_of_mem isYear isMonth isDay
  have visible : ∀ c ∈ joined year month day, isBlank c = false := by
    intro c member
    rcases marks c member with plain | rfl
    · exact isBlank_of_isDigit (isDigit_of_plain plain)
    · decide
  have latin : ∀ c ∈ joined year month day, c.toNat < 0x80 := by
    intro c member
    rcases marks c member with plain | rfl
    · have last : c.toNat ≤ 57 := (Char.isDigit_iff_toNat.mp plain).2
      omega
    · decide
  have small : ∀ c ∈ joined year month day, c.toLower = c := by
    intro c member
    rcases marks c member with plain | rfl
    · exact toLower_of_isDigit (isDigit_of_plain plain)
    · rfl
  rw [trim_surrounded blank_before blank_after (isTight_of_forall visible), lower,
    lowerAfter_of_latin [] latin, List.map_congr_left small, List.map_id']

/-- The rows and the hyphens are the tokens. -/
theorem tokens_joined :
    tokens (joined year month day) = [year, ['-'], month, ['-'], day] := by
  have kept : (joined year month day).filter (· ≠ '\x00') = joined year month day := by
    rw [List.filter_eq_self]
    intro c member
    rcases plain_or_hyphen_of_mem isYear isMonth isDay c member with plain | rfl
    · exact decide_eq_true (ne_of_isDigit (isDigit_of_plain plain) (by decide))
    · decide
  have day_alone : tokensAfter none day = [day] := by
    have alone := tokensAfter_row isDay (by decide) []
    rw [List.append_nil] at alone
    rw [alone]
    exact congrArg (· :: []) day.reverse_reverse
  rw [tokens, kept, joined, List.append_assoc, tokensAfter_row isYear (by decide), List.cons_append,
    tokensAfter_hyphen, tokensAfter_row isMonth (by decide), tokensAfter_hyphen, day_alone,
    List.reverse_reverse, List.reverse_reverse]

end Joined

/-! ## Numbers among the tokens -/

section Numbers

variable {row : List Char} (isRow : IsRow row width number) (some_place : 0 < width)

include isRow some_place

/-- A word that does not begin with a digit is no row. -/
theorem toList_ne_row {word : String} (wordless : ¬word.toList.head?.any isDigit = true) :
    word.toList ≠ row := by
  obtain ⟨c, digits, rfl⟩ := List.exists_cons_of_ne_nil (isRow.ne_nil some_place)
  rintro same
  rw [same] at wordless
  exact wordless (isRow.allDigits c List.mem_cons_self)

/-- No month has a name of digits. -/
theorem month?_row : month? row = none := by
  unfold month? position?
  rw [Option.map_eq_none_iff, List.findIdx?_eq_none_iff]
  intro names member
  rw [List.any_eq_false]
  intro word inside
  rw [beq_iff_eq]
  refine toList_ne_row isRow some_place ?_
  revert names word
  decide +kernel

/-- No joining word is made of digits. -/
theorem isJoint_row : isJoint row = false := by
  unfold isJoint
  rw [List.any_eq_false]
  intro word inside
  rw [beq_iff_eq]
  refine toList_ne_row isRow some_place ?_
  revert word
  decide +kernel

/-- A row is read as its number. -/
theorem natOf_row (short : width ≤ Integer.maxDigits) : natOf row = .ok number := by
  have signless : readSign row = (false, row) := by
    refine IsPointed.readSign_append ?_ (by decide : [] ∈ signTexts)
    exact fun c member => .inl (isRow.allDigits c member)
  have read : Integer.ofNumeral? row = some (number : Int) := by
    rw [Integer.ofNumeral?_eq_some_iff, signless, isRow.length_eq, isRow.value_eq]
    exact ⟨isRow.ne_nil some_place, short, isRow.allDigits, rfl⟩
  have all : row.all isDigit = true := List.all_eq_true.mpr isRow.allDigits
  rw [natOf, read]
  exact if_pos all

/-- A row is a finite number. -/
theorem exists_numberOf?_row (short : width ≤ 10 ^ 17) : ∃ value, numberOf? row = some value := by
  have few : digitsValue row < 10 ^ row.length := digitsValue_lt row
  rw [isRow.length_eq] at few
  have read : Decimal.read row = .ok (finite false (digitsValue row) 0) := by
    have signless := IsPointed.read_append
      (fun c member => .inl (isRow.allDigits c member) : IsPointed row) (by decide : [] ∈ signTexts)
    rw [List.nil_append] at signless
    rw [signless, readNumeral_of_allDigits _ isRow.allDigits (isRow.ne_nil some_place)]
    exact ranged_of_lt false 0 few (by decide) (by unfold maxReadExponent; omega)
  exact ⟨_, by rw [numberOf?, read]; rfl⟩

end Numbers

/-! ## Reading the tokens -/

section Reading

variable {year month day : List Char} {y m d : Nat}

/-- A row of more than two digits is the year with its century. -/
theorem pushToken_year (isYear : IsRow year 4 y) (parts : Parts) (unmarked : parts.yearAt = none) :
    parts.pushToken year
      = .ok { parts with
        values := parts.values ++ [(y : Int)]
        yearAt := some parts.values.length
        fullYear := true } := by
  have long : Parts.isLong year = true := by
    rw [Parts.isLong, isYear.all_showsDigit, isYear.length_eq]
    rfl
  rw [Parts.pushToken, natOf_row isYear (by decide) (by decide)]
  simp only [bind, Except.bind, long, if_true, Parts.pushYear, unmarked, Parts.push]
  rfl

/-- A row of two digits is a number without a mark. -/
theorem pushToken_pair {row : List Char} (isRow : IsRow row 2 number) (parts : Parts) :
    parts.pushToken row = .ok (parts.push number) := by
  have short : Parts.isLong row = false := by
    rw [Parts.isLong, isRow.length_eq]
    exact Bool.and_false _
  rw [Parts.pushToken, natOf_row isRow (by decide) (by decide)]
  simp only [bind, Except.bind, short]
  rfl

variable (isYear : IsRow year 4 y) (isMonth : IsRow month 2 m) (isDay : IsRow day 2 d)

include isYear isMonth isDay

/-- The first row is the year, and the rows behind it are two numbers. -/
theorem readJoined_rows :
    readJoined {} year ['-'] [month, ['-'], day]
      = .ok ({ parts := ⟨[(y : Int), m, d], some 0, none, true⟩ }, 4) := by
  have member : ∀ parts : Parts, pushMember parts month = .ok (parts.push m) := fun parts => by
    rw [pushMember, if_pos ⟨isMonth.ne_nil (by decide), isMonth.all_showsDigit⟩,
      pushToken_pair isMonth]
  have last : ∀ parts : Parts, pushNameOrToken parts day = .ok (parts.push d) := fun parts => by
    rw [pushNameOrToken, month?_row isDay (by decide)]
    exact pushToken_pair isDay parts
  rw [readJoined, pushToken_year isYear {} rfl]
  simp only [bind, Except.bind, isJoint_row isMonth (by decide), member, last]
  rfl

/-- A row of four digits before a hyphen begins a date of joined members. -/
theorem readToken_joined (currentYear : Nat) :
    readToken currentYear [] year [['-'], month, ['-'], day] {}
      = .ok ({ parts := ⟨[(y : Int), m, d], some 0, none, true⟩ }, 4) := by
  obtain ⟨value, isNumber⟩ := exists_numberOf?_row isYear (by decide) (by decide)
  have timeless : tellsTime {} year [['-'], month, ['-'], day] = false := rfl
  have unitless : unitBeside? [] [['-'], month, ['-'], day] = none := rfl
  rw [readToken, isNumber]
  dsimp only
  unfold readNumber
  dsimp only
  -- Four digits are neither six nor eight or more run together.
  rw [timeless, unitless, isYear.length_eq]
  exact readJoined_rows isYear isMonth isDay

/-- One step reads the three numbers. -/
theorem readTokens_joined (currentYear : Nat) :
    readTokens currentYear [] [year, ['-'], month, ['-'], day] {}
      = pure { parts := ⟨[(y : Int), m, d], some 0, none, true⟩ } := by
  rw [readTokens, readToken_joined isYear isMonth isDay]
  change readTokens currentYear _ [] _ = _
  rw [readTokens]
  rfl

end Reading

/-! ## Dates -/

/-- The numbers of rows name a date by their places alone. -/
theorem dateOf_numbers {y m d : Nat} (today : Date) (parts : Parts) (y_few : y < 10 ^ 4)
    (m_few : m < 10 ^ 2) (d_few : d < 10 ^ 2) :
    dateOf today { parts := parts } ⟨some (y : Int), some (m : Int), some (d : Int)⟩
      = ofParts y m d := by
  have fits : ∀ part : Nat, part < 10 ^ 4 → checkPart part = pure () := fun part few =>
    checkPart_of_small (by omega) (by omega)
  have timeless : checkTimePart none = pure () := rfl
  have unbounded : ∀ bound error, checkBelow none bound error = pure () := fun _ _ => rfl
  unfold dateOf
  dsimp only
  rw [Option.getD_some, Option.getD_some, pure_bind, fits y y_few, fits m (by omega),
    fits d (by omega)]
  simp only [timeless, unbounded, pure_bind, bind_pure]

/-- A marked year before two numbers makes them the month and the day. -/
theorem resolve_numbers (y m d : Nat) :
    (⟨[(y : Int), m, d], some 0, none, true⟩ : Parts).resolve
      = pure ⟨some (y : Int), some (m : Int), some (d : Int)⟩ :=
  congrArg Except.ok (if_pos (.inr rfl))

/-- A year with its century is not moved. -/
theorem fixYear_of_fullYear {y : Nat} (today : Date) (parts : Parts) {resolved : Parts.Resolved}
    (full : parts.fullYear = true) (year_eq : resolved.year = some (y : Int)) :
    fixYear today parts resolved = pure resolved := by
  have nonneg : ¬resolved.year.any (· < 0) = true := by
    rw [year_eq, Option.any_some, decide_eq_true_iff]
    omega
  rw [fixYear, if_neg nonneg, if_pos full]
  rfl

section Phrases

variable {year month day : List Char} {y m d : Nat} (isYear : IsRow year 4 y)
  (isMonth : IsRow month 2 m) (isDay : IsRow day 2 d)

include isYear isMonth isDay

/-- Rows joined by hyphens name the date of their numbers in this order, whatever the current day
is, or the numbers are no date. -/
theorem readPhrase_joined (today : Date) :
    readPhrase today (joined year month day) =
      match ofParts y m d with
      | .ok date => .ok date
      | .error error => .error (.unreadable (joined year month day) (.calendar error)) := by
  have few : ∀ {row width number}, IsRow row width number → number < 10 ^ width := by
    rintro row _ _ ⟨-, rfl, rfl⟩
    exact digitsValue_lt row
  have built : build today { parts := ⟨[(y : Int), m, d], some 0, none, true⟩ }
      ⟨some (y : Int), some (m : Int), some (d : Int)⟩ = ofParts y m d := by
    rw [build, dateOf_numbers today _ (few isYear) (few isMonth) (few isDay)]
    cases ofParts y m d with
    | ok date => rfl
    | error error => rfl
  have resolved : resolveTokens today [year, ['-'], month, ['-'], day] =
      .ok (match ofParts y m d with
        | .ok date => .ok date
        | .error error => .error (.calendar error)) := by
    rw [resolveTokens, readTokens_joined isYear isMonth isDay, pure_bind, resolve_numbers,
      pure_bind, fixYear_of_fullYear today _ rfl rfl, pure_bind, built]
    cases ofParts y m d with
    | ok date => rfl
    | error error => rfl
  rw [readPhrase, tokens_joined isYear isMonth isDay, resolved]
  cases ofParts y m d with
  | ok date => rfl
  | error error => rfl

end Phrases

/-! ## Written dates -/

/-- A written date names itself, between any blanks and on every day that has neighbours. -/
theorem read_toText (date : Date) {before after : List Char} (blank_before : AllBlank before)
    (blank_after : AllBlank after) (inside : today.HasNeighbours) :
    read today (before ++ date.toText ++ after) = .ok date := by
  obtain ⟨isYear, isMonth, isDay⟩ := isRow_parts date
  obtain ⟨yesterday, yesterday_eq⟩ := Option.isSome_iff_exists.mp inside.1
  obtain ⟨tomorrow, tomorrow_eq⟩ := Option.isSome_iff_exists.mp inside.2
  have phrase_eq : lower (trim (before ++ date.toText ++ after)) = date.toText :=
    lower_trim_joined isYear isMonth isDay blank_before blank_after
  have no_word : ∀ word : String, '-' ∉ word.toList → date.toText ≠ word.toList := by
    intro word absent same
    refine absent (same ▸ ?_)
    exact List.mem_append_right _ List.mem_cons_self
  have named : readPhrase today date.toText = .ok date := by
    have told := readPhrase_joined isYear isMonth isDay today
    rw [ofParts_parts] at told
    exact told
  rw [read, phrase_eq, yesterday_eq, tomorrow_eq]
  dsimp only
  rw [if_neg (no_word "today" (by decide)), if_neg (no_word "yesterday" (by decide)),
    if_neg (no_word "tomorrow" (by decide)), named]

/-- A date that is written as year, month and day is taken literally: between any blanks it names
this date, on one day as on another, and a command goes on with it. -/
theorem written_date_is_literal (date : Date) {before after : List Char}
    (blank_before : AllBlank before) (blank_after : AllBlank after) {today other : Date}
    (inside : today.HasNeighbours) (other_inside : other.HasNeighbours) :
    read today (before ++ date.toText ++ after) = .ok date
      ∧ read other (before ++ date.toText ++ after) = read today (before ++ date.toText ++ after)
      ∧ ∀ (andThen : Option Date → Call CommandLine.Ending) (world : World), world.today = today →
        CommandLine.withDate (some (String.ofList (before ++ date.toText ++ after))) andThen world
          = andThen (some date) world := by
  have here := read_toText date blank_before blank_after inside
  have there := read_toText date blank_before blank_after other_inside
  refine ⟨here, there.trans here.symm, ?_⟩
  rintro andThen world rfl
  have some_text : String.ofList (before ++ date.toText ++ after) ≠ "" := by
    intro empty
    have nothing := congrArg String.toList empty
    rw [String.toList_ofList] at nothing
    simp [toText] at nothing
  have meant : CommandLine.dateMeant (some (String.ofList (before ++ date.toText ++ after)))
      world.today = .ok (some date) := by
    rw [CommandLine.dateMeant, Option.filter_some, if_pos (decide_eq_true some_text)]
    dsimp only
    rw [String.toList_ofList, here]
  rw [CommandLine.withDate_eq, meant]
  rfl

/-- The second day of the third month of the year seven, between spaces of two kinds. -/
theorem written_date_is_literal_seven :
    AllBlank ['\u3000', ' '] ∧ AllBlank ['\n']
      ∧ HasNeighbours ⟨2024, 2, 29, by decide⟩ ∧ HasNeighbours ⟨1999, 12, 31, by decide⟩
      ∧ read ⟨2024, 2, 29, by decide⟩ "\u3000 0007-03-02\n".toList
        = .ok ⟨7, 3, 2, by decide⟩
      ∧ read ⟨1999, 12, 31, by decide⟩ "\u3000 0007-03-02\n".toList
        = .ok ⟨7, 3, 2, by decide⟩ := by
  have blank_before : AllBlank ['\u3000', ' '] := by decide
  have blank_after : AllBlank ['\n'] := by decide
  have inside : HasNeighbours ⟨2024, 2, 29, by decide⟩ := by decide
  have other_inside : HasNeighbours ⟨1999, 12, 31, by decide⟩ := by decide
  have literal := written_date_is_literal ⟨7, 3, 2, by decide⟩ blank_before blank_after inside
    other_inside
  have text_eq : ['\u3000', ' '] ++ toText ⟨7, 3, 2, by decide⟩ ++ ['\n']
      = "\u3000 0007-03-02\n".toList := by decide
  rw [text_eq] at literal
  exact ⟨blank_before, blank_after, inside, other_inside, literal.1, literal.2.1.trans literal.1⟩

end Phrase

end Cashbook.Date
