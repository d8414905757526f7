import Cashbook.Text.Loose
import Cashbook.Text.Printable

/-!
# Quoted texts

A quoted text stands between apostrophes, or between quotation marks when it holds an apostrophe
and no quotation mark.  The quote, the backslash and everything that is not printable are escaped.
-/

namespace Cashbook.Text

/-- A number in hexadecimal digits, with zeros in front up to a width. -/
def hexText (width number : Nat) : List Char :=
  let digits := Nat.toDigits 16 number
  List.replicate (width - digits.length) '0' ++ digits

/-- The quote that a text is put between. -/
def quoteOf (text : List Char) : Char :=
  if text.contains '\'' && !text.contains '"' then '"' else '\''

/-- One character inside quotes. -/
def escapeChar (quote c : Char) : List Char :=
  if c = quote ∨ c = '\\' then ['\\', c]
  else if c = '\t' then ['\\', 't']
  else if c = '\n' then ['\\', 'n']
  else if c = '\r' then ['\\', 'r']
  else if isPrintable c then [c]
  else if c.toNat < 0x100 then ['\\', 'x'] ++ hexText 2 c.toNat
  else if c.toNat < 0x10000 then ['\\', 'u'] ++ hexText 4 c.toNat
  else ['\\', 'U'] ++ hexText 8 c.toNat

/-- The text between quotes. -/
def quoted (text : List Char) : List Char :=
  let quote := quoteOf text
  quote :: (text.flatMap (escapeChar quote) ++ [quote])

/-- One sign inside quotes; a half is not printable. -/
def escapeSign (quote : Char) : Sign → List Char
  | .char c => escapeChar quote c
  | .half surrogate => ['\\', 'u'] ++ hexText 4 surrogate.number

/-- The loose text between quotes. -/
def quotedLoose (text : LooseText) : List Char :=
  let quote := quoteOf (text.signs.filterMap Sign.char?)
  quote :: (text.signs.flatMap (escapeSign quote) ++ [quote])

end Cashbook.Text
