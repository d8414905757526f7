import Cashbook.Proofs.Date.Order

/-!
# Steps by whole months

Stepping by whole months is arithmetic on the numbers of months.  Divided by twelve and rounded
down, the number of the new month gives its year, and the rest gives the month of that year; the day
stays, or is the last one of a month that is too short for it.  So later dates and longer steps lead
to later dates, and two steps lead to where one step leads unless the first has cut the day.
-/

namespace Cashbook.Date

variable {date other later otherLater : Date} {months more : Int}

/-! ## Order -/

/-- Dates are ordered by their months first and within a month by their days. -/
theorem le_iff_monthCount :
    date ≤ other ↔ date.monthCount < other.monthCount
      ∨ date.monthCount = other.monthCount ∧ date.day ≤ other.day := by
  have some_day := date.valid.2.2.1
  have other_some_day := other.valid.2.2.1
  have day_le := date.valid.2.2.2.trans (daysInMonth_le _ _)
  have other_day_le := other.valid.2.2.2.trans (daysInMonth_le _ _)
  rw [le_iff, rank_eq, rank_eq]
  omega

/-- No fewer months after a date that is no earlier, a date is no earlier. -/
theorem IsMonthsAfter.le (near : later.IsMonthsAfter date months)
    (far : otherLater.IsMonthsAfter other more) (before : date ≤ other) (fewer : months ≤ more) :
    later ≤ otherLater := by
  rcases near with ⟨count, day_eq⟩
  rcases far with ⟨other_count, other_day_eq⟩
  rw [le_iff_monthCount] at before ⊢
  rcases before with earlier | ⟨same, day_le⟩
  · left
    omega
  · rcases lt_or_eq_of_le fewer with less | rfl
    · left
      omega
    · have same_month : later.monthCount = otherLater.monthCount := by omega
      rcases monthCount_eq_iff.mp same_month with ⟨year_eq, month_eq⟩
      rw [day_eq, other_day_eq, year_eq, month_eq]
      exact .inr ⟨same_month, min_le_min_right _ day_le⟩

/-! ## Two steps -/

/-- A day that every month has is kept. -/
theorem IsMonthsAfter.day_eq (step : later.IsMonthsAfter date months) (short : date.day ≤ 28) :
    later.day = date.day :=
  step.2.trans (min_eq_left (short.trans (le_daysInMonth _ _)))

/-- After a step that kept the day, a second one ends as one step by both does. -/
theorem IsMonthsAfter.addMonths_eq (step : later.IsMonthsAfter date months)
    (kept : later.day = date.day) (more : Int) :
    later.addMonths more = date.addMonths (months + more) := by
  have count : (later.monthCount : Int) + more = date.monthCount + (months + more) := by
    rw [step.1, add_assoc]
  rw [Date.addMonths_eq, Date.addMonths_eq, count, kept]

/-! ## Arithmetic -/

/-- The number of the month that lies so many months after the one of a date. -/
def monthAfter (date : Date) (months : Int) : Int :=
  12 * date.year + (date.month - 1) + months

theorem monthAfter_eq (date : Date) (months : Int) :
    date.monthAfter months = date.monthCount + months := by
  obtain ⟨-, ⟨month_pos, -⟩, -⟩ := date.valid
  unfold monthAfter monthCount
  omega

/-- Is a step by whole months arithmetic on the numbers of months? -/
structure IsMonthArithmetic (step : Date → Int → Except CalendarError Date) : Prop where
  /-- A step is refused exactly where it leads to a year outside the calendar, which is named. -/
  refused : ∀ date months error, months.natAbs < 10 ^ 9 →
    (step date months = .error error
      ↔ ((date.monthAfter months).fdiv 12 < 1 ∨ 9999 < (date.monthAfter months).fdiv 12)
        ∧ error = .yearOutOfRange ((date.monthAfter months).fdiv 12))
  /-- Otherwise it leads to the new month, and to its last day where it is too short. -/
  leads : ∀ date months later, step date months = .ok later
    ↔ (later.year : Int) = (date.monthAfter months).fdiv 12
      ∧ (later.month : Int) = (date.monthAfter months).fmod 12 + 1
      ∧ later.day = min date.day (daysInMonth later.year later.month)
  /-- Later dates and longer steps lead to later dates. -/
  monotone : ∀ date other months more later otherLater, date ≤ other → months ≤ more →
    step date months = .ok later → step other more = .ok otherLater → later ≤ otherLater
  /-- A step by no months stays where it is. -/
  still : ∀ date, step date 0 = .ok date
  /-- After a step from one of the first 28 days, a second one ends as one step by both does. -/
  joined : ∀ date months more later, date.day ≤ 28 → step date months = .ok later →
    step later more = step date (months + more)

/-- A step leads to the year and the month that division by twelve tells. -/
theorem addMonths_eq_ok_iff_fdiv :
    date.addMonths months = .ok later
      ↔ (later.year : Int) = (date.monthAfter months).fdiv 12
        ∧ (later.month : Int) = (date.monthAfter months).fmod 12 + 1
        ∧ later.day = min date.day (daysInMonth later.year later.month) := by
  obtain ⟨-, ⟨month_pos, month_le⟩, -⟩ := later.valid
  have count_iff : (later.monthCount : Int) = date.monthCount + months
      ↔ (later.year : Int) = (date.monthAfter months).fdiv 12
        ∧ (later.month : Int) = (date.monthAfter months).fmod 12 + 1 := by
    rw [Int.fdiv_eq_ediv_of_nonneg _ (by decide), Int.fmod_eq_emod_of_nonneg _ (by decide),
      monthAfter_eq, monthCount]
    omega
  rw [addMonths_eq_ok_iff, IsMonthsAfter, count_iff, and_assoc]

/-- A step is refused where it leaves the calendar, and nowhere else. -/
theorem addMonths_eq_error_iff {error : CalendarError} (near : months.natAbs < 10 ^ 9) :
    date.addMonths months = .error error
      ↔ ((date.monthAfter months).fdiv 12 < 1 ∨ 9999 < (date.monthAfter months).fdiv 12)
        ∧ error = .yearOutOfRange ((date.monthAfter months).fdiv 12) := by
  have outside_iff :
      ((date.monthAfter months).fdiv 12 < 1 ∨ 9999 < (date.monthAfter months).fdiv 12)
        ↔ date.monthCount + months < 12 ∨ 120000 ≤ date.monthCount + months := by
    rw [Int.fdiv_eq_ediv_of_nonneg _ (by decide), monthAfter_eq]
    omega
  rw [outside_iff, Int.fdiv_eq_ediv_of_nonneg _ (by decide), monthAfter_eq]
  by_cases outside : date.monthCount + months < 12 ∨ 120000 ≤ date.monthCount + months
  · rw [date.addMonths_of_outside months (by omega) outside, Except.error.injEq, eq_comm]
    exact (and_iff_right outside).symm
  · rcases date.exists_addMonths_eq months (by omega) (by omega) with ⟨later, inside⟩
    simp [inside, outside]

/-- Stepping by whole months is arithmetic on the numbers of months, before and after a date, across
the ends of years and up to both ends of the calendar. -/
theorem isMonthArithmetic_addMonths : IsMonthArithmetic addMonths where
  refused _ _ _ near := addMonths_eq_error_iff near
  leads _ _ _ := addMonths_eq_ok_iff_fdiv
  monotone _ _ _ _ _ _ before fewer near far :=
    (addMonths_eq_ok_iff.mp near).le (addMonths_eq_ok_iff.mp far) before fewer
  still := addMonths_zero
  joined date months more later short step := by
    have after := addMonths_eq_ok_iff.mp step
    exact after.addMonths_eq (after.day_eq short) more

/-- From the last day of January, two steps by a month do not lead to where one by two does. -/
example :
    let january : Date := ⟨2023, 1, 31, by decide⟩
    (january.addMonths 1 >>= fun february => february.addMonths 1)
        = .ok ⟨2023, 3, 28, by decide⟩
      ∧ january.addMonths 2 = .ok ⟨2023, 3, 31, by decide⟩ := by
  decide +kernel

end Cashbook.Date
