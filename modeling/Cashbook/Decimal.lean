import Cashbook.Rounding

/-!
# Decimal numbers

A decimal number keeps the digits and the exponent it was written with: `50`, `50.0` and `5E+1`
are one value in three forms.  Beside the finite numbers there are two infinities and values that
are no number, which may be signaling and may carry a payload.
-/

namespace Cashbook

/-- A decimal number in the form it was written in. -/
inductive Decimal where
  /-- The coefficient times ten to the exponent, with a sign that zero has too. -/
  | finite (negative : Bool) (coefficient : Nat) (exponent : Int)
  | infinite (negative : Bool)
  /-- No number.  A signaling one refuses every operation; payload zero is none. -/
  | notNumber (negative : Bool) (signaling : Bool) (payload : Nat)
deriving DecidableEq

namespace Decimal

/-- Why an operation on decimals has no result. -/
inductive ArithmeticError where
  /-- The operation is not defined for these operands. -/
  | invalidOperation
  /-- The result is too large for the exponent range. -/
  | overflow
  /-- The whole quotient has more digits than the precision. -/
  | divisionImpossible
deriving DecidableEq

/-- A whole number. -/
def ofInt (number : Int) : Decimal :=
  finite (decide (number < 0)) number.natAbs 0

/-- Zero, written without decimal places. -/
def zero : Decimal :=
  finite false 0 0

/-- A number of hundredths, written with two decimal places. -/
def ofCents (negative : Bool) (cents : Nat) : Decimal :=
  finite negative cents (-2)

/-- Is the value a number other than infinity? -/
def isFinite : Decimal → Bool
  | finite .. => true
  | _ => false

/-- Does the value refuse every operation? -/
def isSignaling : Decimal → Bool
  | notNumber _ signaling _ => signaling
  | _ => false

/-- The exponent of the first digit. -/
def leadingExponent (coefficient : Nat) (exponent : Int) : Int :=
  exponent + digitCount coefficient - 1

/-- The coefficient with zeros written after it. -/
def appendZeros (coefficient zeros : Nat) : Nat :=
  if coefficient = 0 then 0 else coefficient * Nat.pow 10 zeros

/-- The coefficient with its last digits rounded away.  When more digits are dropped than there
are, the value is below a tenth of the remaining unit and rounds to zero. -/
def dropDigits (coefficient digits : Nat) : Nat :=
  if digitCount coefficient < digits then 0 else divHalfEven coefficient (Nat.pow 10 digits)

@[simp]
theorem appendZeros_zero (coefficient : Nat) : appendZeros coefficient 0 = coefficient := by
  by_cases h : coefficient = 0 <;> simp [appendZeros, h]

theorem appendZeros_eq (coefficient zeros : Nat) :
    appendZeros coefficient zeros = coefficient * Nat.pow 10 zeros := by
  by_cases h : coefficient = 0 <;> simp [appendZeros, h]

end Decimal

end Cashbook
