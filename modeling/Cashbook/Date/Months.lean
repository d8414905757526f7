import Cashbook.Date

/-!
# Steps by whole months

A date moves by whole months: whole years of twelve months first, then the rest, with a carry into
the year.  A day that the new month does not have becomes the last day of that month.
-/

namespace Cashbook.Date

/-- Year and month after adding fewer than twelve months to a month, in either direction. -/
def carryMonths (year : Int) (month : Nat) (months : Int) : Int × Nat :=
  let moved := (month : Int) + months
  if 12 < moved then (year + 1, (moved - 12).toNat)
  else if moved < 1 then (year - 1, (moved + 12).toNat)
  else (year, moved.toNat)

/-- The date a number of months later, or earlier for a negative number. -/
def addMonths (date : Date) (months : Int) : Except CalendarError Date :=
  let (year, month) := carryMonths (date.year + months.tdiv 12) date.month (months.tmod 12)
  ofParts year month (min (daysInMonth year.toNat month) date.day)

/-- The first day of the month of a date. -/
def monthStart (date : Date) : Date :=
  ⟨date.year, date.month, 1, date.valid.1, date.valid.2.1, Nat.le_refl 1,
    Nat.le_trans (by decide) (le_daysInMonth date.year date.month)⟩

/-- The first and the last day of the month of a date.  The last day is the one before the next
month, so the last month of the calendar has none. -/
def monthRange (date : Date) : Except CalendarError (Date × Date) := do
  let following ← date.monthStart.addMonths 1
  match following.previous? with
  | some last => pure (date.monthStart, last)
  | none => throw .outsideCalendar

end Cashbook.Date
