import Cashbook.Date.Months
import Cashbook.Ledger.Entries

/-!
# The monthly report

Income and expenses of one calendar month, whatever their settlement.  Transfers move money within
the owner's accounts and do not count.
-/

namespace Cashbook

open Call

/-- Income and expenses between two days. -/
structure MonthlyReport where
  /-- The first day of the month. -/
  first : Date
  /-- The last day of the month. -/
  last : Date
  /-- The sum of income. -/
  income : Decimal
  /-- The sum of expenses. -/
  expenses : Decimal
deriving DecidableEq

namespace MonthlyReport

/-- What remains of the income. -/
def net (report : MonthlyReport) : Except Decimal.ArithmeticError Decimal :=
  report.income.sub report.expenses

/-- The sum of the amounts of one kind of entry. -/
def total (kind : EntryKind) (entries : List Entry) : Except Decimal.ArithmeticError Decimal :=
  Decimal.sum ((entries.filter fun entry => entry.kind = kind).map fun entry =>
    entry.amount.toDecimal)

/-- The report on the month of a day. -/
def load (owner : String) (day : Date) : Call MonthlyReport := do
  let (first, last) ← ofCalendar day.monthRange
  let entries ← Entry.list owner { first := some first, last := some last }
  let income ← ofArithmetic (total .income entries)
  let expenses ← ofArithmetic (total .expense entries)
  return ⟨first, last, income, expenses⟩

end MonthlyReport

end Cashbook
