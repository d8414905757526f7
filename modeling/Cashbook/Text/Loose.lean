/-!
# Loose texts

A text that comes from outside may hold one half of a surrogate pair without the other.  It is read
and compared like any other text, but it cannot be stored or looked up.  Apart from that, nothing
tells one half from another or from a character that is no letter, no digit and no blank.
-/

namespace Cashbook

/-- One half of a surrogate pair. -/
structure Surrogate where
  /-- Its number. -/
  number : Nat
  /-- It lies where the halves of pairs are. -/
  inRange : 0xd800 ≤ number ∧ number < 0xe000
deriving DecidableEq

/-- A character of a loose text, or half a pair in its place. -/
inductive Sign where
  | char (c : Char)
  | half (surrogate : Surrogate)
deriving DecidableEq

namespace Sign

/-- The sign with a number. -/
def ofNumber (number : Nat) : Sign :=
  if inRange : 0xd800 ≤ number ∧ number < 0xe000 then half ⟨number, inRange⟩
  else char (Char.ofNat number)

/-- The character that a sign is. -/
def char? : Sign → Option Char
  | char c => some c
  | half _ => none

/-- The character that a sign is, or another one in the place of a half. -/
def charOr (other : Char) (sign : Sign) : Char :=
  sign.char?.getD other

end Sign

/-- A text that may hold halves of surrogate pairs. -/
structure LooseText where
  /-- Its signs. -/
  signs : List Sign
deriving DecidableEq

namespace LooseText

/-- A text as a loose one. -/
def ofString (text : String) : LooseText :=
  ⟨text.toList.map .char⟩

instance : Coe String LooseText :=
  ⟨ofString⟩

/-- The text, if it holds no halves. -/
def whole? (text : LooseText) : Option String :=
  (text.signs.mapM Sign.char?).map String.ofList

/-- The text with a character in the place of each half. -/
def filledWith (c : Char) (text : LooseText) : List Char :=
  text.signs.map (Sign.charOr c)

end LooseText

end Cashbook
