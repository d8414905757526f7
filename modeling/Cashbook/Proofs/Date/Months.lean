import Cashbook.Date.Months
import Mathlib.Algebra.Order.Ring.Int
import Mathlib.Data.Nat.Cast.Order.Ring
import Mathlib.Order.Nat

/-!
# Counting months

A month of the calendar is one number, counted from the beginning of the year zero, and a step by
whole months adds to it.  The step keeps the day where the new month has it and takes the last day
otherwise, and it fails exactly where it would leave the calendar.
-/

namespace Cashbook.Date

variable {date later : Date} {months : Int}

/-- The number of the month of a date, counted from the beginning of the year zero. -/
def monthCount (date : Date) : Nat :=
  date.year * 12 + (date.month - 1)

/-- Does a date lie so many months after another one, on the same day of the month or else on the
last one? -/
def IsMonthsAfter (later date : Date) (months : Int) : Prop :=
  (later.monthCount : Int) = date.monthCount + months
    ∧ later.day = min date.day (daysInMonth later.year later.month)

/-- The calendar has the months of the years 1 to 9999. -/
theorem monthCount_bounds (date : Date) : 12 ≤ date.monthCount ∧ date.monthCount < 120000 := by
  obtain ⟨⟨year_pos, year_le⟩, ⟨month_pos, month_le⟩, -⟩ := date.valid
  unfold monthCount
  omega

/-! ## Parts of dates -/

theorem checkPart_of_small {part : Int} (above : -2147483648 ≤ part) (below : part < 2147483648) :
    checkPart part = .ok () := by
  have word_limit : Integer.wordLimit = 9223372036854775808 := rfl
  have short_limit : Integer.shortLimit = 2147483648 := rfl
  have word : Integer.isWord part = true := by
    rw [Integer.isWord, decide_eq_true_iff]
    omega
  have fits : ¬Integer.shortLimit ≤ part := by omega
  have fits_below : ¬part < -Integer.shortLimit := by omega
  rw [checkPart, word, Bool.not_true, if_neg Bool.false_ne_true, if_neg fits, if_neg fits_below]

theorem ofParts_parts (date : Date) : ofParts date.year date.month date.day = .ok date := by
  obtain ⟨⟨year_pos, year_le⟩, ⟨month_pos, month_le⟩, -, day_le⟩ := date.valid
  have short := daysInMonth_le date.year date.month
  have in_year : ¬((date.year : Int) < 1 ∨ 9999 < (date.year : Int)) := by omega
  have in_month : ¬((date.month : Int) < 1 ∨ 12 < (date.month : Int)) := by omega
  rw [ofParts, checkPart_of_small (by omega) (by omega), checkPart_of_small (by omega) (by omega),
    checkPart_of_small (by omega) (by omega)]
  simp only [bind, Except.bind]
  rw [if_neg in_year, if_neg in_month]
  simp only [Int.toNat_natCast, make?_parts]
  rfl

theorem make?_eq_some {year month day : Nat} (made : make? year month day = some date) :
    date.year = year ∧ date.month = month ∧ date.day = day := by
  unfold make? at made
  split_ifs at made
  cases made
  exact ⟨rfl, rfl, rfl⟩

/-- A date is made of its own parts only. -/
theorem ofParts_eq_ok_iff {year month day : Int} (day_nonneg : 0 ≤ day) :
    ofParts year month day = .ok date
      ↔ (date.year : Int) = year ∧ (date.month : Int) = month ∧ (date.day : Int) = day := by
  constructor
  · intro made
    unfold ofParts at made
    cases first : checkPart year with
    | error error => simp [first, bind, Except.bind] at made
    | ok =>
      cases second : checkPart month with
      | error error => simp [first, second, bind, Except.bind] at made
      | ok =>
        cases third : checkPart day with
        | error error => simp [first, second, third, bind, Except.bind] at made
        | ok =>
          by_cases in_year : year < 1 ∨ 9999 < year
          · simp [first, second, third, in_year, bind, Except.bind, throw, throwThe,
              MonadExceptOf.throw] at made
          · by_cases in_month : month < 1 ∨ 12 < month
            · simp [first, second, third, in_year, in_month, bind, Except.bind, throw, throwThe,
                MonadExceptOf.throw] at made
            · simp only [first, second, third, in_year, in_month, bind, Except.bind,
                if_false] at made
              cases parts : make? year.toNat month.toNat day.toNat with
              | none => simp [parts, throw, throwThe, MonadExceptOf.throw] at made
              | some found =>
                obtain rfl : found = date := by simpa [parts, pure, Except.pure] using made
                have named := make?_eq_some parts
                omega
  · rintro ⟨rfl, rfl, rfl⟩
    exact ofParts_parts date

/-- A year behind the calendar is named by the error. -/
theorem ofParts_of_year {year month day : Int} (outside : year < 1 ∨ 9999 < year)
    (year_fits : checkPart year = .ok ()) (month_fits : checkPart month = .ok ())
    (day_fits : checkPart day = .ok ()) :
    ofParts year month day = .error (.yearOutOfRange year) := by
  rw [ofParts, year_fits, month_fits, day_fits]
  simp only [bind, Except.bind]
  rw [if_pos outside]
  rfl

/-! ## Steps -/

/-- The year and the month that a step leads to. -/
theorem carryMonths_eq (date : Date) (months : Int) :
    carryMonths (date.year + months.tdiv 12) date.month (months.tmod 12)
      = ((date.monthCount + months) / 12, ((date.monthCount + months) % 12).toNat + 1) := by
  obtain ⟨-, ⟨month_pos, month_le⟩, -⟩ := date.valid
  have parts := Int.mul_tdiv_add_tmod months 12
  have above := Int.tmod_lt_of_pos months (by decide : (0 : Int) < 12)
  have below := Int.lt_tmod_of_pos months (by decide : (0 : Int) < 12)
  generalize months.tdiv 12 = years at parts ⊢
  generalize months.tmod 12 = rest at parts above below ⊢
  unfold carryMonths monthCount
  dsimp only
  split_ifs
  · rw [Prod.mk.injEq]
    omega
  · rw [Prod.mk.injEq]
    omega
  · rw [Prod.mk.injEq]
    omega

/-- A step makes a date of the new year, the new month and the day that the month has. -/
theorem addMonths_eq (date : Date) (months : Int) :
    date.addMonths months =
      ofParts ((date.monthCount + months) / 12) (((date.monthCount + months) % 12).toNat + 1 : Nat)
        (min (daysInMonth ((date.monthCount + months) / 12).toNat
          (((date.monthCount + months) % 12).toNat + 1)) date.day : Nat) := by
  rw [addMonths, carryMonths_eq]
  dsimp only
  rw [Nat.cast_min]

/-- A step by months adds to the number of the month. -/
theorem addMonths_eq_ok_iff :
    date.addMonths months = .ok later ↔ later.IsMonthsAfter date months := by
  obtain ⟨-, ⟨month_pos, month_le⟩, -⟩ := later.valid
  rw [addMonths_eq, ofParts_eq_ok_iff (Int.natCast_nonneg _), IsMonthsAfter]
  constructor
  · rintro ⟨year_eq, month_eq, day_eq⟩
    have month_eq : later.month = ((date.monthCount + months) % 12).toNat + 1 := by
      exact_mod_cast month_eq
    have day_eq := Int.natCast_inj.mp day_eq
    rw [← year_eq, ← month_eq, Int.toNat_natCast, min_comm] at day_eq
    refine ⟨?_, day_eq⟩
    unfold monthCount at *
    omega
  · rintro ⟨count, day_eq⟩
    have year_eq : (later.year : Int) = (date.monthCount + months) / 12 := by
      rw [← count, monthCount]
      omega
    have month_eq : later.month = ((date.monthCount + months) % 12).toNat + 1 := by
      rw [← count, monthCount]
      omega
    refine ⟨year_eq, by rw [month_eq], ?_⟩
    rw [← year_eq, ← month_eq, Int.toNat_natCast, min_comm, day_eq]

/-- A date no months later is the date itself. -/
theorem addMonths_zero (date : Date) : date.addMonths 0 = .ok date :=
  addMonths_eq_ok_iff.mpr ⟨(add_zero _).symm, (min_eq_left date.valid.2.2.2).symm⟩

/-- A step that stays within the calendar leads to a date. -/
theorem exists_addMonths_eq (date : Date) (months : Int) (first : 12 ≤ date.monthCount + months)
    (last : date.monthCount + months < 120000) : ∃ later, date.addMonths months = .ok later := by
  obtain ⟨-, -, day_pos, -⟩ := date.valid
  obtain ⟨count, count_eq⟩ := Int.eq_ofNat_of_zero_le (by omega : 0 ≤ date.monthCount + months)
  have long := le_daysInMonth (count / 12) (count % 12 + 1)
  have short := min_le_right date.day (daysInMonth (count / 12) (count % 12 + 1))
  have some_day : 1 ≤ min date.day (daysInMonth (count / 12) (count % 12 + 1)) :=
    le_min day_pos (by omega)
  refine ⟨⟨count / 12, count % 12 + 1, _, ⟨by omega, by omega⟩, ⟨by omega, by omega⟩, some_day,
    short⟩, addMonths_eq_ok_iff.mpr ⟨?_, rfl⟩⟩
  rw [count_eq, monthCount]
  push_cast
  omega

/-- A step out of the calendar is refused with the year that it leads to. -/
theorem addMonths_of_outside (date : Date) (months : Int)
    (near : -1000000000 < months ∧ months < 1000000000)
    (outside : date.monthCount + months < 12 ∨ 120000 ≤ date.monthCount + months) :
    date.addMonths months = .error (.yearOutOfRange ((date.monthCount + months) / 12)) := by
  have bounds := date.monthCount_bounds
  have short := daysInMonth_le ((date.monthCount + months) / 12).toNat
    (((date.monthCount + months) % 12).toNat + 1)
  rw [addMonths_eq]
  apply ofParts_of_year
  · omega
  · exact checkPart_of_small (by omega) (by omega)
  · exact checkPart_of_small (by omega) (by omega)
  · exact checkPart_of_small (by omega) (by omega)

end Cashbook.Date
