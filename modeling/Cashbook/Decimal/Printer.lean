import Cashbook.Decimal

/-!
# Writing decimal numbers

A number is written as it is kept: positionally while its exponent is at most zero and its first
digit is no further than six places behind the point, and otherwise with an exponent.  Amounts are
written with exactly two places, rounded from the exact value.
-/

namespace Cashbook.Decimal

/-- The sign of a number in front of its digits. -/
def signText (negative : Bool) : List Char :=
  if negative then ['-'] else []

/-- The digits of a number. -/
def digitsText (number : Nat) : List Char :=
  Nat.toDigits 10 number

/-- A number with its point `places` digits from the right, with zeros in front as needed. -/
def pointText (number places : Nat) : List Char :=
  let digits := digitsText number
  let padded := List.replicate (places + 1 - digits.length) '0' ++ digits
  let whole := padded.take (padded.length - places)
  if places = 0 then whole else whole ++ '.' :: padded.drop (padded.length - places)

/-- An exponent with its sign. -/
def exponentText (exponent : Int) : List Char :=
  (if exponent < 0 then '-' else '+') :: digitsText exponent.natAbs

/-- The text of a value that is no number. -/
def notNumberText (negative signaling : Bool) (payload : Nat) : List Char :=
  signText negative ++ (if signaling then ['s'] else []) ++ ['N', 'a', 'N']
    ++ (if payload = 0 then [] else digitsText payload)

/-- The text of an infinity. -/
def infiniteText (negative : Bool) : List Char :=
  signText negative ++ "Infinity".toList

/-- The number as it is kept. -/
def toText : Decimal → List Char
  | finite negative coefficient exponent =>
      let leading := leadingExponent coefficient exponent
      signText negative ++
        if exponent ≤ 0 ∧ -6 ≤ leading then
          pointText coefficient (-exponent).toNat
        else
          pointText coefficient (digitCount coefficient - 1) ++
            if leading = 0 then [] else 'E' :: exponentText leading
  | infinite negative => infiniteText negative
  | notNumber negative signaling payload => notNumberText negative signaling payload

/-- The hundredths of a size, a half going to the even neighbour. -/
def hundredths (coefficient : Nat) (exponent : Int) : Nat :=
  if -2 ≤ exponent then appendZeros coefficient (exponent + 2).toNat
  else dropDigits coefficient (-2 - exponent).toNat

/-- The number with two decimal places. -/
def toFixedText : Decimal → List Char
  | finite negative coefficient exponent =>
      signText negative ++ pointText (hundredths coefficient exponent) 2
  | infinite negative => infiniteText negative
  | notNumber negative signaling payload => notNumberText negative signaling payload

end Cashbook.Decimal
