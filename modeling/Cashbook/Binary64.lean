import Cashbook.Decimal.Arithmetic

/-!
# Binary numbers of 64 bits

A finite binary number of 64 bits is a whole number of steps of `2 ^ -1074` with at most 53
significant bits.  Every operation is exact up to one rounding to the nearest such number, a half
going to the even neighbour; from `2 ^ 1024` on, the result is infinite.
-/

namespace Cashbook

/-- A binary number of 64 bits. -/
inductive Binary64 where
  /-- The size in steps of `2 ^ -1074`, with a sign that zero has too. -/
  | finite (negative : Bool) (steps : Nat)
  | infinite (negative : Bool)
  | notNumber
deriving DecidableEq

namespace Binary64

/-- The number of steps in one. -/
def one : Nat :=
  Nat.pow 2 1074

/-- The number of steps from which on a size is infinite. -/
def limit : Nat :=
  Nat.pow 2 2098

/-- How many low bits a number has beyond the 53 that are kept. -/
def excessBits (number : Nat) : Nat :=
  number.log2 + 1 - 53

/-- The nearest number of steps with at most 53 significant bits to a quotient of steps. -/
def nearest (numerator denominator : Nat) : Nat :=
  let unit := Nat.pow 2 (excessBits (numerator / denominator))
  divHalfEven numerator (denominator * unit) * unit

/-- The steps nearest to a decimal size, or nothing when it is too large.  Sizes far outside the
range are recognised by the place of their first digit. -/
def ofDecimalSize? (coefficient : Nat) (exponent : Int) : Option Nat :=
  let leading := Decimal.leadingExponent coefficient exponent
  if coefficient = 0 ∨ leading < -330 then some 0
  else if 330 < leading then none
  else
    let steps :=
      if 0 ≤ exponent then nearest (coefficient * Nat.pow 10 exponent.toNat * one) 1
      else nearest (coefficient * one) (Nat.pow 10 (-exponent).toNat)
    if steps < limit then some steps else none

/-- The binary number nearest to a decimal one. -/
def ofDecimal : Decimal → Binary64
  | .finite negative coefficient exponent =>
      match ofDecimalSize? coefficient exponent with
      | some steps => finite negative steps
      | none => infinite negative
  | .infinite negative => infinite negative
  | .notNumber .. => notNumber

/-- The hundredths nearest to a size in steps, a half going to the even neighbour. -/
def hundredths (steps : Nat) : Nat :=
  divHalfEven (steps * 100) one

/-- Is the number greater than zero?  What is no number is not. -/
def isPositive : Binary64 → Bool
  | finite negative steps => !negative && steps != 0
  | infinite negative => !negative
  | notNumber => false

/-- Is the number zero or less?  What is no number is not. -/
def isNotPositive : Binary64 → Bool
  | finite negative steps => negative || steps == 0
  | infinite negative => negative
  | notNumber => false

/-- The whole number that this is, if it is one. -/
def toInt? : Binary64 → Option Int
  | finite negative steps =>
      if steps % one = 0 then some (Decimal.signed negative (steps / one)) else none
  | _ => none

end Binary64

end Cashbook
