import Cashbook.Binary64
import Cashbook.Decimal.Arithmetic

/-!
# Stored amounts

The ledger keeps amounts as binary numbers of 64 bits, so a decimal amount is rounded once when it
is stored, and sums round once for each addition.  A stored zero has no sign, and a stored amount
is always a number.  Reading rounds the exact stored value to two decimal places.
-/

namespace Cashbook.Money

/-- An amount as the ledger keeps it. -/
inductive Stored where
  /-- A whole number of steps of `2 ^ -1074`. -/
  | finite (steps : Int)
  | infinite (negative : Bool)
deriving DecidableEq

namespace Stored

/-- Nothing. -/
def zero : Stored :=
  finite 0

/-- The stored amount of a binary number, if it is a number. -/
def ofBinary? : Binary64 → Option Stored
  | .finite negative steps => some (finite (Decimal.signed negative steps))
  | .infinite negative => some (infinite negative)
  | .notNumber => none

/-- The stored amount of a decimal number, if it is a number. -/
def ofDecimal? (amount : Decimal) : Option Stored :=
  ofBinary? (Binary64.ofDecimal amount)

/-- An exact number of steps rounded to a stored amount. -/
def ofSteps (steps : Int) : Stored :=
  let size := Binary64.nearest steps.natAbs 1
  if size < Binary64.limit then finite (Decimal.signed (steps < 0) size)
  else infinite (steps < 0)

/-- The sum of two stored amounts, unless it is no number. -/
def add? : Stored → Stored → Option Stored
  | finite steps, finite others => some (ofSteps (steps + others))
  | infinite negative, infinite otherNegative =>
      if negative = otherNegative then some (infinite negative) else none
  | infinite negative, finite _ => some (infinite negative)
  | finite _, infinite negative => some (infinite negative)

/-- The amount with the other sign. -/
def neg : Stored → Stored
  | finite steps => finite (-steps)
  | infinite negative => infinite !negative

/-- The difference of two stored amounts, unless it is no number. -/
def sub? (first second : Stored) : Option Stored :=
  first.add? second.neg

/-- Is the first amount at least the second? -/
def covers : Stored → Stored → Bool
  | finite steps, finite others => decide (others ≤ steps)
  | infinite negative, infinite otherNegative => !negative || otherNegative
  | infinite negative, finite _ => !negative
  | finite _, infinite negative => negative

/-- The amount as it is read: two decimal places, with the sign of what rounds to zero. -/
def toDecimal : Stored → Decimal
  | finite steps => Decimal.ofCents (decide (steps < 0)) (Binary64.hundredths steps.natAbs)
  | infinite negative => .infinite negative

end Stored

end Cashbook.Money
