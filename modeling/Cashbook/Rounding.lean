/-!
# Rounding to the nearest whole number

One rule rounds every quotient of the library: to the nearest whole number, and from the middle to
the even neighbour.  Decimals, binary numbers and printed amounts all use it.
-/

namespace Cashbook

/-- The quotient rounded to the nearest whole number, a half going to the even neighbour. -/
def divHalfEven (numerator denominator : Nat) : Nat :=
  let quotient := numerator / denominator
  let twice := 2 * (numerator % denominator)
  if twice < denominator then quotient
  else if denominator < twice then quotient + 1
  else if quotient % 2 = 0 then quotient
  else quotient + 1

/-- A quotient that is whole is not changed. -/
theorem divHalfEven_mul_self (quotient : Nat) {denominator : Nat} (positive : 0 < denominator) :
    divHalfEven (quotient * denominator) denominator = quotient := by
  simp [divHalfEven, Nat.mul_div_cancel _ positive, positive]

/-- The number of decimal digits that write a number. -/
def digitCount (number : Nat) : Nat :=
  (Nat.toDigits 10 number).length

theorem digitCount_pos (number : Nat) : 0 < digitCount number :=
  Nat.length_toDigits_pos

end Cashbook
