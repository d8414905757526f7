import Cashbook.Decimal

/-!
# Decimal arithmetic

Results are kept to 28 significant digits, a half going to the even neighbour, with exponents of
the first digit from -999999 to 999999.  A result above that range is refused, one below it loses
digits.  Comparison is exact whatever the exponents.
-/

namespace Cashbook.Decimal

/-- The digits that a result keeps and the range of its first digit's exponent. -/
structure Precision where
  /-- The number of significant digits. -/
  digits : Nat
  /-- The largest exponent of a first digit. -/
  maxExponent : Int
  /-- The smallest exponent of a first digit at full precision. -/
  minExponent : Int

/-- The precision of the ledger's arithmetic. -/
def working : Precision :=
  ⟨28, 999999, -999999⟩

/-- The exponent below which no digit is kept. -/
def Precision.lastExponent (precision : Precision) : Int :=
  precision.minExponent - (precision.digits - 1)

/-- The exponent at which a result with these digits is cut. -/
def Precision.cutExponent (precision : Precision) (coefficient : Nat) (exponent : Int) : Int :=
  max exponent
    (max (leadingExponent coefficient exponent - (precision.digits - 1)) precision.lastExponent)

/-- An exact result fitted to the working precision. -/
def fit (negative : Bool) (coefficient : Nat) (exponent : Int) : Except ArithmeticError Decimal :=
  if coefficient = 0 then
    .ok (finite negative 0 (min (max exponent working.lastExponent) working.maxExponent))
  else if working.maxExponent < leadingExponent coefficient exponent then
    .error .overflow
  else
    let cut := working.cutExponent coefficient exponent
    let kept := dropDigits coefficient (cut - exponent).toNat
    if kept < Nat.pow 10 working.digits then
      .ok (finite negative kept cut)
    else if working.maxExponent < leadingExponent kept cut then
      .error .overflow
    else
      .ok (finite negative (kept / 10) (cut + 1))

/-- What an operation does with an operand that is no number: it refuses a signaling one and
passes another on with as much of its payload as fits. -/
def passOn (negative signaling : Bool) (payload : Nat) : Except ArithmeticError Decimal :=
  if signaling then .error .invalidOperation
  else .ok (notNumber negative false (payload % Nat.pow 10 working.digits))

/-- The number with the other sign, fitted to the working precision.  Zero becomes positive. -/
def neg : Decimal → Except ArithmeticError Decimal
  | finite negative coefficient exponent =>
      fit (!negative && coefficient != 0) coefficient exponent
  | infinite negative => .ok (infinite !negative)
  | notNumber negative signaling payload => passOn negative signaling payload

/-- The number with a sign and a coefficient as one integer. -/
def signed (negative : Bool) (coefficient : Nat) : Int :=
  if negative then -coefficient else coefficient

/-- The smaller of two addends where it lies wholly below the last digit that the larger one
keeps.  Only its sign matters there, so a single unit (or zero) further up takes its place. -/
def reachOf (coefficient : Nat) (exponent : Int) (lowCoefficient : Nat) (lowExponent : Int) :
    Nat × Int :=
  let reach := exponent + min (-1) ((digitCount coefficient : Int) - working.digits - 2)
  if coefficient ≠ 0 ∧ leadingExponent lowCoefficient lowExponent < reach then
    (if lowCoefficient = 0 then 0 else 1, reach)
  else
    (lowCoefficient, lowExponent)

/-- The sum of two finite numbers of which the first has the larger exponent. -/
def addAligned (negative : Bool) (coefficient : Nat) (exponent : Int)
    (lowNegative : Bool) (lowCoefficient : Nat) (lowExponent : Int) :
    Except ArithmeticError Decimal :=
  let (unit, place) := reachOf coefficient exponent lowCoefficient lowExponent
  let sum := signed negative (appendZeros coefficient (exponent - place).toNat)
    + signed lowNegative unit
  let sign := if sum = 0 then negative && lowNegative else decide (sum < 0)
  fit sign sum.natAbs place

/-- The sum, fitted to the working precision. -/
def add : Decimal → Decimal → Except ArithmeticError Decimal
  | notNumber negative signaling payload, notNumber _ otherSignaling _ =>
      passOn negative (signaling || otherSignaling) payload
  | notNumber negative signaling payload, _ => passOn negative signaling payload
  | _, notNumber negative signaling payload => passOn negative signaling payload
  | infinite negative, infinite otherNegative =>
      if negative = otherNegative then .ok (infinite negative) else .error .invalidOperation
  | infinite negative, finite .. => .ok (infinite negative)
  | finite .., infinite negative => .ok (infinite negative)
  | finite negative coefficient exponent, finite otherNegative otherCoefficient otherExponent =>
      if otherExponent ≤ exponent then
        addAligned negative coefficient exponent otherNegative otherCoefficient otherExponent
      else
        addAligned otherNegative otherCoefficient otherExponent negative coefficient exponent

/-- The same number with the sign turned, without rounding. -/
def turned : Decimal → Decimal
  | finite negative coefficient exponent => finite (!negative) coefficient exponent
  | infinite negative => infinite !negative
  | notNumber negative signaling payload => notNumber negative signaling payload

/-- The difference, fitted to the working precision. -/
def sub (first second : Decimal) : Except ArithmeticError Decimal :=
  add first second.turned

/-- The sum of a list from left to right, each step fitted to the working precision. -/
def sum (numbers : List Decimal) : Except ArithmeticError Decimal :=
  numbers.foldlM add zero

/-- The order of two sizes. -/
def compareSizes (coefficient : Nat) (exponent : Int) (otherCoefficient : Nat)
    (otherExponent : Int) : Ordering :=
  if coefficient = 0 then
    if otherCoefficient = 0 then .eq else .lt
  else if otherCoefficient = 0 then .gt
  else
    match compare (leadingExponent coefficient exponent)
        (leadingExponent otherCoefficient otherExponent) with
    | .eq =>
        compare (appendZeros coefficient (exponent - otherExponent).toNat)
          (appendZeros otherCoefficient (otherExponent - exponent).toNat)
    | order => order

/-- The order of two values, or nothing when one of them is no number. -/
def order? : Decimal → Decimal → Option Ordering
  | notNumber .., _ | _, notNumber .. => none
  | infinite negative, infinite otherNegative =>
      if negative = otherNegative then some .eq else some (if negative then .lt else .gt)
  | infinite negative, finite .. => some (if negative then .lt else .gt)
  | finite .., infinite otherNegative => some (if otherNegative then .gt else .lt)
  | finite negative coefficient exponent, finite otherNegative otherCoefficient otherExponent =>
      if coefficient = 0 ∧ otherCoefficient = 0 then some .eq
      else if coefficient = 0 then some (if otherNegative then .gt else .lt)
      else if otherCoefficient = 0 then some (if negative then .lt else .gt)
      else
        match negative, otherNegative with
        | true, false => some .lt
        | false, true => some .gt
        | false, false => some (compareSizes coefficient exponent otherCoefficient otherExponent)
        | true, true => some (compareSizes otherCoefficient otherExponent coefficient exponent)

/-- The order of two values; a value that is no number is refused. -/
def compareValues (first second : Decimal) : Except ArithmeticError Ordering :=
  match order? first second with
  | some order => .ok order
  | none => .error .invalidOperation

/-- Is the value zero or below? -/
def isNotPositive (number : Decimal) : Except ArithmeticError Bool :=
  return (← compareValues number zero) != .gt

/-- Is the value zero or above? -/
def isNotNegative (number : Decimal) : Except ArithmeticError Bool :=
  return (← compareValues number zero) != .lt

/-- Does the value differ from zero?  A value that is no number does. -/
def isNonzero (number : Decimal) : Bool :=
  order? number zero != some .eq

/-- The value to two decimal places, refused when it needs more digits than are kept. -/
def toCents : Decimal → Except ArithmeticError Decimal
  | finite negative coefficient exponent =>
      if coefficient ≠ 0 ∧ (working.digits : Int) < leadingExponent coefficient exponent + 3 then
        .error .invalidOperation
      else
        let cents :=
          if -2 ≤ exponent then appendZeros coefficient (exponent + 2).toNat
          else dropDigits coefficient (-2 - exponent).toNat
        if cents < Nat.pow 10 working.digits then .ok (ofCents negative cents)
        else .error .invalidOperation
  | infinite _ => .error .invalidOperation
  | notNumber negative signaling payload => passOn negative signaling payload

/-- Removes the trailing zeros of a coefficient, at most the given number of them. -/
def stripZeros : Nat → Nat → Int → Nat × Int
  | 0, coefficient, exponent => (coefficient, exponent)
  | steps + 1, coefficient, exponent =>
      if coefficient % 10 = 0 then stripZeros steps (coefficient / 10) (exponent + 1)
      else (coefficient, exponent)

/-- The number of decimal places once the number is fitted to the working precision and its
trailing zeros are dropped; a number that cannot be fitted keeps its own places. -/
def significantPlaces : Decimal → Nat
  | finite negative coefficient exponent =>
      match fit negative coefficient exponent with
      | .ok (finite _ 0 _) => 0
      | .ok (finite _ kept place) => (-(stripZeros (digitCount kept) kept place).2).toNat
      | _ => (-exponent).toNat
  | _ => 0

/-- The remainder by one, fitted to the working precision.  The whole part may not have more
digits than are kept. -/
def fraction : Decimal → Except ArithmeticError Decimal
  | finite negative coefficient exponent =>
      if 0 ≤ exponent then
        if coefficient ≠ 0 ∧ (working.digits : Int) ≤ leadingExponent coefficient exponent then
          .error .divisionImpossible
        else
          fit negative 0 0
      else
        let unit := Nat.pow 10 (-exponent).toNat
        if Nat.pow 10 working.digits ≤ coefficient / unit then .error .divisionImpossible
        else fit negative (coefficient % unit) exponent
  | infinite _ => .error .invalidOperation
  | notNumber negative signaling payload => passOn negative signaling payload

/-- The whole part of the size, without the sign. -/
def wholePart : Decimal → Nat
  | finite _ coefficient exponent =>
      if 0 ≤ exponent then appendZeros coefficient exponent.toNat
      else coefficient / Nat.pow 10 (-exponent).toNat
  | _ => 0

end Cashbook.Decimal
