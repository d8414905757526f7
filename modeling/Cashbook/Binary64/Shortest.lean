import Cashbook.Binary64
import Cashbook.Decimal.Printer

/-!
# The shortest text of a binary number

A binary number is written with the fewest decimal digits that read back to it; of several such
texts the nearest to its value is taken.  The first digits are tried at one place, then at two,
and so on; at each length only the two neighbours of the value need a test.
-/

namespace Cashbook.Binary64

/-- The exponent of the first decimal digit of a positive size.  Four hundred further places make
the size a whole number of at least one digit. -/
def firstPlace (steps : Nat) : Int :=
  digitCount (steps * Nat.pow 10 400 / one) - 1 - 400

/-- The value in units of a power of ten, as a fraction. -/
def inUnits (steps : Nat) (exponent : Int) : Nat × Nat :=
  if 0 ≤ exponent then (steps, one * Nat.pow 10 exponent.toNat)
  else (steps * Nat.pow 10 (-exponent).toNat, one)

/-- Does this decimal size read back to the steps? -/
def readsBack (steps coefficient : Nat) (exponent : Int) : Bool :=
  ofDecimalSize? coefficient exponent == some steps

/-- The nearer of the neighbours of a value on a decimal grid that read back to it. -/
def onGrid? (steps : Nat) (exponent : Int) : Option Nat :=
  let (numerator, denominator) := inUnits steps exponent
  let below := numerator / denominator
  let nearer := divHalfEven numerator denominator
  let further := if nearer = below then below + 1 else below
  if readsBack steps nearer exponent then some nearer
  else if readsBack steps further exponent then some further
  else none

/-- The first of the grids, from coarse to fine, that has a point reading back to the value. -/
def searchGrids (steps : Nat) : Nat → Int → Nat × Int
  | 0, exponent => (divHalfEven (inUnits steps exponent).1 (inUnits steps exponent).2, exponent)
  | more + 1, exponent =>
      match onGrid? steps exponent with
      | some coefficient => (coefficient, exponent)
      | none => searchGrids steps more (exponent - 1)

/-- The shortest decimal digits of a positive size and the exponent of the last one.  Seventeen
digits always suffice. -/
def shortest (steps : Nat) : Nat × Int :=
  searchGrids steps 16 (firstPlace steps)

/-- How a shortest text is laid out. -/
structure Layout where
  /-- The smallest exponent of a first digit that is written positionally. -/
  minPositional : Int
  /-- The exponent of a first digit from which on an exponent is written. -/
  endPositional : Int
  /-- The fewest digits of an exponent. -/
  exponentDigits : Nat

/-- Positional from `0.0001` to below `1e+16`, with at least two digits in an exponent. -/
def layout : Layout :=
  ⟨-4, 16, 2⟩

/-- The text of decimal digits whose first has the given exponent. -/
def layOut (coefficient : Nat) (exponent : Int) : List Char :=
  let (digits, place) := Decimal.stripZeros 20 coefficient exponent
  let leading := Decimal.leadingExponent digits place
  if layout.minPositional ≤ leading ∧ leading < layout.endPositional then
    if 0 ≤ place then Decimal.digitsText (digits * Nat.pow 10 place.toNat) ++ ['.', '0']
    else Decimal.pointText digits (-place).toNat
  else
    let size := Decimal.digitsText leading.natAbs
    Decimal.pointText digits (digitCount digits - 1) ++ 'e' :: (if leading < 0 then '-' else '+')
      :: (List.replicate (layout.exponentDigits - size.length) '0' ++ size)

/-- The shortest text that reads back to the number. -/
def toText : Binary64 → List Char
  | finite negative 0 => Decimal.signText negative ++ ['0', '.', '0']
  | finite negative steps =>
      let (digits, exponent) := shortest steps
      Decimal.signText negative ++ layOut digits exponent
  | infinite negative => Decimal.signText negative ++ ['i', 'n', 'f']
  | notNumber => ['n', 'a', 'n']

end Cashbook.Binary64
