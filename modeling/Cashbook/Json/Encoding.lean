import Cashbook.Json.Reader

/-!
# The encoding of JSON texts

JSON comes as bytes in one of five encodings.  A byte order mark tells which; without one, the
places of zero bytes among the first four do, because the first characters of JSON are plain.
-/

namespace Cashbook.Json

/-- The encodings of JSON texts. -/
inductive Encoding where
  | utf8
  | utf16 (bigEndian : Bool)
  | utf32 (bigEndian : Bool)
deriving DecidableEq

/-- The encoding of bytes without a byte order mark. -/
def Encoding.guess : List UInt8 → Encoding
  | first :: second :: third :: fourth :: _ =>
      if first = 0 then (if second = 0 then utf32 true else utf16 true)
      else if second = 0 then (if third = 0 ∧ fourth = 0 then utf32 false else utf16 false)
      else utf8
  | [first, second] =>
      if first = 0 then utf16 true else if second = 0 then utf16 false else utf8
  | _ => utf8

/-- The encoding of bytes, and the bytes behind a byte order mark. -/
def Encoding.detect (bytes : List UInt8) : Encoding × List UInt8 :=
  match bytes with
  | 0x00 :: 0x00 :: 0xfe :: 0xff :: rest => (utf32 true, rest)
  | 0xff :: 0xfe :: 0x00 :: 0x00 :: rest => (utf32 false, rest)
  | 0xfe :: 0xff :: rest => (utf16 true, rest)
  | 0xff :: 0xfe :: rest => (utf16 false, rest)
  | 0xef :: 0xbb :: 0xbf :: rest => (utf8, rest)
  | _ => (guess bytes, bytes)

/-- Is this a byte that goes on with a character? -/
def goesOn (byte : UInt8) : Bool :=
  0x80 ≤ byte && byte < 0xc0

/-- The value of a byte that goes on with a character. -/
def lowBits (byte : UInt8) : Nat :=
  byte.toNat - 0x80

/-- The signs of one to four bytes each, in their shortest form. -/
def signs8? : List UInt8 → Option (List Sign)
  | [] => some []
  | first :: rest =>
      if first < 0x80 then (signs8? rest).map (.ofNumber first.toNat :: ·)
      else if first < 0xe0 then
        match rest with
        | second :: rest =>
            let number := (first.toNat - 0xc0) * 0x40 + lowBits second
            if 0xc2 ≤ first ∧ goesOn second then (signs8? rest).map (.ofNumber number :: ·)
            else none
        | [] => none
      else if first < 0xf0 then
        match rest with
        | second :: third :: rest =>
            let number := ((first.toNat - 0xe0) * 0x40 + lowBits second) * 0x40 + lowBits third
            if 0x800 ≤ number ∧ goesOn second ∧ goesOn third then
              (signs8? rest).map (.ofNumber number :: ·)
            else none
        | _ => none
      else
        match rest with
        | second :: third :: fourth :: rest =>
            let number := (((first.toNat - 0xf0) * 0x40 + lowBits second) * 0x40
              + lowBits third) * 0x40 + lowBits fourth
            if 0x10000 ≤ number ∧ number < 0x110000 ∧ goesOn second ∧ goesOn third
                ∧ goesOn fourth then
              (signs8? rest).map (.ofNumber number :: ·)
            else none
        | _ => none

/-- The units of two bytes each. -/
def units16? (bigEndian : Bool) : List UInt8 → Option (List Nat)
  | [] => some []
  | [_] => none
  | first :: second :: rest =>
      let unit :=
        if bigEndian then first.toNat * 0x100 + second.toNat
        else second.toNat * 0x100 + first.toNat
      (units16? bigEndian rest).map (unit :: ·)

/-- The signs of units of two bytes, of which a pair of surrogates makes one. -/
def signsOfUnits : List Nat → List Sign
  | [] => []
  | [unit] => [.ofNumber unit]
  | unit :: next :: rest =>
      if isHighSurrogate unit && isLowSurrogate next then
        .char (joinSurrogates unit next) :: signsOfUnits rest
      else
        .ofNumber unit :: signsOfUnits (next :: rest)

/-- The signs of four bytes each. -/
def signs32? (bigEndian : Bool) : List UInt8 → Option (List Sign)
  | [] => some []
  | a :: b :: c :: d :: rest =>
      let value :=
        if bigEndian then ((a.toNat * 0x100 + b.toNat) * 0x100 + c.toNat) * 0x100 + d.toNat
        else ((d.toNat * 0x100 + c.toNat) * 0x100 + b.toNat) * 0x100 + a.toNat
      if value < 0x110000 then (signs32? bigEndian rest).map (.ofNumber value :: ·) else none
  | _ => none

/-- The signs that bytes encode.  Halves of surrogate pairs are let through. -/
def Encoding.decode? (bytes : List UInt8) : Encoding → Option (List Sign)
  | utf8 => signs8? bytes
  | utf16 bigEndian => (units16? bigEndian bytes).map signsOfUnits
  | utf32 bigEndian => signs32? bigEndian bytes

/-- The value that bytes write with at most so many containers inside each other. -/
def readBytes (room : Nat) (bytes : List UInt8) : Except ReadError Json :=
  let (encoding, rest) := Encoding.detect bytes
  match encoding.decode? rest with
  | some signs => readWithin room signs
  | none => .error .malformed

end Cashbook.Json
