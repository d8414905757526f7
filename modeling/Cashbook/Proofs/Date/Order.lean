import Cashbook.Proofs.Date.Months

/-!
# The order of dates, month by month

Dates are ordered by their months first and within a month by their days.  So a month is a range of
dates: its days are those from the first to the last one, and no other date lies between them.
-/

namespace Cashbook.Date

variable {date other first last : Date} {index otherIndex : Int}

theorem rank_eq (date : Date) : date.rank = date.monthCount * 31 + (date.day - 1) :=
  rfl

/-- A date of an earlier month is earlier. -/
theorem rank_lt_of_monthCount_lt (earlier : date.monthCount < other.monthCount) :
    date.rank < other.rank := by
  have short := daysInMonth_le date.year date.month
  have day_le := date.valid.2.2.2
  rw [rank_eq, rank_eq]
  omega

/-- Of two dates, the one that lies more months behind a third one is the later. -/
theorem IsMonthsAfter.rank_lt (near : other.IsMonthsAfter date index)
    (far : last.IsMonthsAfter date otherIndex) (less : index < otherIndex) :
    other.rank < last.rank := by
  have near_count := near.1
  have far_count := far.1
  exact rank_lt_of_monthCount_lt (by omega)

/-! ## The days of a month -/

@[simp]
theorem monthCount_monthStart (date : Date) : date.monthStart.monthCount = date.monthCount :=
  rfl

/-- The first day of a month is not after the dates of that month and of later ones. -/
theorem monthStart_le_iff : date.monthStart ≤ other ↔ date.monthCount ≤ other.monthCount := by
  have short := daysInMonth_le other.year other.month
  have day_le := other.valid.2.2.2
  rw [le_iff, rank_eq, rank_eq, monthCount_monthStart]
  change date.monthCount * 31 + 0 ≤ _ ↔ _
  omega

/-- Is the date the last day of a month? -/
def IsMonthEnd (date : Date) : Prop :=
  date.day = daysInMonth date.year date.month

instance (date : Date) : Decidable date.IsMonthEnd :=
  inferInstanceAs (Decidable (_ = _))

/-- Dates of one month have one year and one month of the year. -/
theorem monthCount_eq_iff :
    date.monthCount = other.monthCount ↔ date.year = other.year ∧ date.month = other.month := by
  obtain ⟨-, ⟨month_pos, month_le⟩, -⟩ := date.valid
  obtain ⟨-, ⟨other_pos, other_le⟩, -⟩ := other.valid
  unfold monthCount
  omega

/-- The last day of a month is not before the dates of that month and of earlier ones. -/
theorem IsMonthEnd.le_iff (ends : last.IsMonthEnd) :
    other ≤ last ↔ other.monthCount ≤ last.monthCount := by
  have some_day := other.valid.2.2.1
  have day_le := other.valid.2.2.2
  have short := daysInMonth_le other.year other.month
  have long := le_daysInMonth last.year last.month
  have short_last := daysInMonth_le last.year last.month
  unfold IsMonthEnd at ends
  rw [Date.le_iff, rank_eq, rank_eq]
  constructor
  · intro before
    omega
  · intro months
    by_cases same : other.monthCount = last.monthCount
    · rw [monthCount_eq_iff] at same
      rw [same.1, same.2] at day_le
      omega
    · omega

/-- The day before the first one of a month is the last one of the month before. -/
theorem previous?_eq_some (begins : date.day = 1) (later : 12 < date.monthCount) :
    ∃ last, date.previous? = some last ∧ last.IsMonthEnd
      ∧ last.monthCount + 1 = date.monthCount := by
  obtain ⟨⟨year_pos, year_le⟩, ⟨month_pos, month_le⟩, -⟩ := date.valid
  have no_day_before : ¬1 < date.day := by omega
  unfold monthCount at later
  by_cases in_year : 1 < date.month
  · have long := le_daysInMonth date.year (date.month - 1)
    have valid : IsDate date.year (date.month - 1) (daysInMonth date.year (date.month - 1)) :=
      ⟨⟨year_pos, year_le⟩, ⟨by omega, by omega⟩, by omega, le_rfl⟩
    refine ⟨⟨_, _, _, valid⟩, ?_, rfl, ?_⟩
    · rw [previous?, if_neg no_day_before, if_pos in_year, make?, dif_pos valid]
    · unfold monthCount
      dsimp only
      omega
  · have valid : IsDate (date.year - 1) 12 31 :=
      ⟨⟨by omega, by omega⟩, ⟨by omega, by omega⟩, by omega, le_rfl⟩
    refine ⟨⟨_, _, _, valid⟩, ?_, rfl, ?_⟩
    · rw [previous?, if_neg no_day_before, if_neg in_year, make?, dif_pos valid]
    · unfold monthCount
      dsimp only
      omega

/-- Every month but the last one of the calendar has a first and a last day. -/
theorem exists_monthRange_eq (date : Date) (inside : date.monthCount + 1 < 120000) :
    ∃ last, date.monthRange = .ok (date.monthStart, last) ∧ last.IsMonthEnd
      ∧ last.monthCount = date.monthCount := by
  have bounds := date.monthCount_bounds
  have start_count := date.monthCount_monthStart
  rcases exists_addMonths_eq date.monthStart 1 (by omega) (by omega) with ⟨following, step⟩
  rcases addMonths_eq_ok_iff.mp step with ⟨count, day_eq⟩
  have long := le_daysInMonth following.year following.month
  have begins : following.day = 1 := by
    rw [day_eq]
    change min 1 _ = 1
    omega
  rcases previous?_eq_some begins (by omega) with ⟨last, before, ends, last_count⟩
  refine ⟨last, ?_, ends, by omega⟩
  simp only [monthRange, step, before, bind, Except.bind, pure, Except.pure]

/-- The last month of the calendar has no range. -/
theorem monthCount_lt_of_monthRange (ranged : date.monthRange = .ok (first, last)) :
    date.monthCount + 1 < 120000 := by
  cases step : date.monthStart.addMonths 1 with
  | error error =>
      simp only [monthRange, step, bind, Except.bind, reduceCtorEq] at ranged
  | ok following =>
      have count := (addMonths_eq_ok_iff.mp step).1
      have bounds := following.monthCount_bounds
      rw [monthCount_monthStart] at count
      omega

/-- The dates of a month are those from its first to its last day. -/
theorem mem_monthRange_iff (ranged : date.monthRange = .ok (first, last)) :
    first ≤ other ∧ other ≤ last ↔ other.monthCount = date.monthCount := by
  rcases exists_monthRange_eq date (monthCount_lt_of_monthRange ranged) with
    ⟨found, found_eq, ends, count⟩
  obtain ⟨rfl, rfl⟩ := Prod.mk.inj (Except.ok.inj (ranged.symm.trans found_eq))
  rw [monthStart_le_iff, ends.le_iff, count]
  omega

/-- Dates of one month have one range. -/
theorem monthRange_eq_of_monthCount_eq (same : date.monthCount = other.monthCount) :
    date.monthRange = other.monthRange := by
  have start_eq : date.monthStart = other.monthStart := by
    apply eq_of_rank_eq
    rw [rank_eq, rank_eq, monthCount_monthStart, monthCount_monthStart, same]
    rfl
  rw [monthRange, monthRange, start_eq]

/-! ## The day after -/

/-- Within a month, the day after is the next one of the month. -/
theorem exists_next?_of_not_isMonthEnd (within : ¬date.IsMonthEnd) :
    ∃ following, date.next? = some following ∧ following.monthCount = date.monthCount
      ∧ following.day = date.day + 1 := by
  obtain ⟨year_valid, month_valid, day_pos, day_le⟩ := date.valid
  unfold IsMonthEnd at within
  have valid : IsDate date.year date.month (date.day + 1) :=
    ⟨year_valid, month_valid, by omega, by omega⟩
  exact ⟨⟨_, _, _, valid⟩, by rw [next?, make?, dif_pos valid, Option.some_or], rfl, rfl⟩

/-- The day after the last one of a month is the first one of the next month. -/
theorem IsMonthEnd.exists_next?_eq (ends : date.IsMonthEnd)
    (inside : date.monthCount + 1 < 120000) :
    ∃ following, date.next? = some following ∧ following.day = 1
      ∧ following.monthCount = date.monthCount + 1 := by
  obtain ⟨⟨year_pos, year_le⟩, ⟨month_pos, month_le⟩, -⟩ := date.valid
  unfold monthCount at inside
  have month_over : ¬IsDate date.year date.month (date.day + 1) := by
    rintro ⟨-, -, -, more⟩
    rw [← ends] at more
    omega
  have long : ∀ year month, 1 ≤ daysInMonth year month := fun year month =>
    (by decide : 1 ≤ 28).trans (le_daysInMonth year month)
  by_cases in_year : date.month < 12
  · have valid : IsDate date.year (date.month + 1) 1 :=
      ⟨⟨year_pos, year_le⟩, ⟨by omega, by omega⟩, le_rfl, long _ _⟩
    refine ⟨⟨_, _, _, valid⟩, ?_, rfl, ?_⟩
    · rw [next?, make?, dif_neg month_over, Option.none_or, make?, dif_pos valid, Option.some_or]
    · unfold monthCount
      dsimp only
      omega
  · have year_over : ¬IsDate date.year (date.month + 1) 1 := by
      rintro ⟨-, ⟨-, more⟩, -⟩
      omega
    have valid : IsDate (date.year + 1) 1 1 :=
      ⟨⟨by omega, by omega⟩, ⟨le_rfl, by decide⟩, le_rfl, long _ _⟩
    refine ⟨⟨_, _, _, valid⟩, ?_, rfl, ?_⟩
    · rw [next?, make?, dif_neg month_over, Option.none_or, make?, dif_neg year_over,
        Option.none_or, make?, dif_pos valid]
    · unfold monthCount
      dsimp only
      omega

/-- The last date of the calendar. -/
def lastDate : Date :=
  ⟨9999, 12, 31, by decide⟩

/-- Every date but the last one has a day after it, and no date lies between the two. -/
theorem exists_next?_eq (not_last : date ≠ lastDate) :
    ∃ following, date.next? = some following
      ∧ ∀ other : Date, following ≤ other ↔ ¬other ≤ date := by
  by_cases ends : date.IsMonthEnd
  · have inside : date.monthCount + 1 < 120000 := by
      by_contra beyond
      have bounds := date.monthCount_bounds
      have same : date.monthCount = lastDate.monthCount := by
        change date.monthCount = 119999
        omega
      rcases monthCount_eq_iff.mp same with ⟨year_eq, month_eq⟩
      apply not_last
      apply eq_of_rank_eq
      rw [rank_eq, rank_eq, same, ends, year_eq, month_eq]
      rfl
    rcases ends.exists_next?_eq inside with ⟨following, step, begins, count⟩
    have start_eq : following.monthStart = following := by
      apply eq_of_rank_eq
      rw [rank_eq, rank_eq, monthCount_monthStart, begins]
      rfl
    refine ⟨following, step, fun other => ?_⟩
    rw [← start_eq, monthStart_le_iff, ends.le_iff, count]
    omega
  · rcases exists_next?_of_not_isMonthEnd ends with ⟨following, step, count, day_eq⟩
    refine ⟨following, step, fun other => ?_⟩
    rw [le_iff, le_iff, rank_eq following, rank_eq date, count, day_eq]
    have some_day := date.valid.2.2.1
    omega

/-- The ranges of two months that follow each other meet without a gap. -/
theorem next?_eq_of_monthRange {nextFirst nextLast : Date}
    (consecutive : other.monthCount = date.monthCount + 1)
    (ranged : date.monthRange = .ok (first, last))
    (next_ranged : other.monthRange = .ok (nextFirst, nextLast)) : last.next? = some nextFirst := by
  rcases exists_monthRange_eq date (monthCount_lt_of_monthRange ranged) with
    ⟨found, found_eq, ends, count⟩
  obtain ⟨-, rfl⟩ := Prod.mk.inj (Except.ok.inj (ranged.symm.trans found_eq))
  rcases exists_monthRange_eq other (monthCount_lt_of_monthRange next_ranged) with
    ⟨_, other_eq, -⟩
  obtain ⟨rfl, -⟩ := Prod.mk.inj (Except.ok.inj (next_ranged.symm.trans other_eq))
  have inside := monthCount_lt_of_monthRange next_ranged
  rcases ends.exists_next?_eq (by omega) with ⟨following, step, begins, following_count⟩
  rw [step, Option.some.injEq]
  apply eq_of_rank_eq
  rw [rank_eq, rank_eq, monthCount_monthStart, following_count, count, consecutive, begins]
  rfl

end Cashbook.Date
