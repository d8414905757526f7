import Cashbook.Binary64.Reader
import Cashbook.Integer
import Cashbook.Json

/-!
# Reading JSON

The reader follows the grammar strictly, but also knows the names of infinity and of no number.
Of members with one name the last one counts.  Escapes for both halves of a surrogate pair give one
character, and a half without its partner stays what it is.  How many arrays and objects may stand
inside each other can be limited; of a fault in the grammar and one too many of them, the one
further to the front counts.
-/

namespace Cashbook.Json

/-- Why a text is no JSON value. -/
inductive ReadError where
  /-- The text does not follow the grammar. -/
  | malformed
  /-- An array or an object stands inside too many others. -/
  | tooDeep (container : Container)
deriving DecidableEq

/-- The blanks between tokens. -/
def isGap : Sign → Bool
  | .char c => c == ' ' || c == '\t' || c == '\n' || c == '\r'
  | .half _ => false

/-- A text without the blanks at its front. -/
def dropGap (input : List Sign) : List Sign :=
  input.dropWhile isGap

/-- The characters with a property at the front of a text, and what follows them. -/
def spanChars (property : Char → Bool) : List Sign → List Char × List Sign
  | .char c :: rest =>
      if property c then
        let (chars, behind) := spanChars property rest
        (c :: chars, behind)
      else
        ([], .char c :: rest)
  | input => ([], input)

/-- The value of a hexadecimal digit. -/
def hexValue? (c : Char) : Option Nat :=
  if '0' ≤ c ∧ c ≤ '9' then some (c.toNat - '0'.toNat)
  else if 'a' ≤ c ∧ c ≤ 'f' then some (c.toNat - 'a'.toNat + 10)
  else if 'A' ≤ c ∧ c ≤ 'F' then some (c.toNat - 'A'.toNat + 10)
  else none

/-- Four hexadecimal digits at the front of a text. -/
def readUnit? : List Sign → Option (Nat × List Sign)
  | .char a :: .char b :: .char c :: .char d :: rest => do
      let a ← hexValue? a
      let b ← hexValue? b
      let c ← hexValue? c
      let d ← hexValue? d
      return (((a * 16 + b) * 16 + c) * 16 + d, rest)
  | _ => none

/-- Is this the first half of a surrogate pair? -/
def isHighSurrogate (unit : Nat) : Bool :=
  decide (0xd800 ≤ unit ∧ unit < 0xdc00)

/-- Is this the second half of a surrogate pair? -/
def isLowSurrogate (unit : Nat) : Bool :=
  decide (0xdc00 ≤ unit ∧ unit < 0xe000)

/-- The character of a surrogate pair. -/
def joinSurrogates (high low : Nat) : Char :=
  Char.ofNat (0x10000 + (high - 0xd800) * 0x400 + (low - 0xdc00))

/-- The sign behind `\u`, which may take a second escape. -/
def readEscapedUnit? (input : List Sign) : Option (Sign × List Sign) := do
  let (unit, rest) ← readUnit? input
  if isHighSurrogate unit then
    match rest with
    | .char '\\' :: .char 'u' :: behind =>
        let (second, behind) ← readUnit? behind
        if isLowSurrogate second then return (.char (joinSurrogates unit second), behind)
        else return (.ofNumber unit, rest)
    | _ => return (.ofNumber unit, rest)
  else
    return (.ofNumber unit, rest)

/-- The character of a one-letter escape. -/
def escapedChar? (c : Char) : Option Char :=
  match c with
  | '"' => some '"'
  | '\\' => some '\\'
  | '/' => some '/'
  | 'b' => some '\x08'
  | 'f' => some '\x0c'
  | 'n' => some '\n'
  | 'r' => some '\r'
  | 't' => some '\t'
  | _ => none

/-- The signs of a text value up to its closing quote, and what follows, with a bound on the number
of signs. -/
def readSignsWithin : Nat → List Sign → Option (List Sign × List Sign)
  | 0, _ => none
  | bound + 1, input =>
      match input with
      | [] => none
      | .char '"' :: rest => some ([], rest)
      | .char '\\' :: .char 'u' :: rest => do
          let (sign, rest) ← readEscapedUnit? rest
          let (signs, rest) ← readSignsWithin bound rest
          return (sign :: signs, rest)
      | .char '\\' :: .char letter :: rest => do
          let c ← escapedChar? letter
          let (signs, rest) ← readSignsWithin bound rest
          return (.char c :: signs, rest)
      | .char c :: rest =>
          if c.toNat < 0x20 ∨ c = '\\' then none
          else do
            let (signs, rest) ← readSignsWithin bound rest
            return (.char c :: signs, rest)
      | .half surrogate :: rest => do
          let (signs, rest) ← readSignsWithin bound rest
          return (.half surrogate :: signs, rest)

/-- A text value behind its opening quote. -/
def readText? (input : List Sign) : Option (LooseText × List Sign) :=
  (readSignsWithin (input.length + 1) input).map fun result => (⟨result.1⟩, result.2)

/-- Decimal places at the front of a text, with their point. -/
def takePlaces : List Sign → List Char × List Sign
  | .char '.' :: rest =>
      let (digits, behind) := spanChars Char.isDigit rest
      if digits = [] then ([], .char '.' :: rest) else ('.' :: digits, behind)
  | input => ([], input)

/-- The sign of an exponent, if there is one at the front of a text. -/
def takeSign : List Sign → List Char × List Sign
  | .char '+' :: rest => (['+'], rest)
  | .char '-' :: rest => (['-'], rest)
  | input => ([], input)

/-- An exponent at the front of a text. -/
def takeExponent : List Sign → List Char × List Sign
  | .char c :: rest =>
      if c = 'e' ∨ c = 'E' then
        let (sign, behind) := takeSign rest
        let (digits, behind) := spanChars Char.isDigit behind
        if digits = [] then ([], .char c :: rest) else (c :: (sign ++ digits), behind)
      else
        ([], .char c :: rest)
  | input => ([], input)

/-- The whole part of a number: a zero, or digits of which the first is none. -/
def takeWhole : List Sign → List Char × List Sign
  | .char '0' :: rest => (['0'], rest)
  | input => spanChars Char.isDigit input

/-- A number without its sign. -/
def readNumber? (sign : List Char) (input : List Sign) : Option (Json × List Sign) :=
  let (integral, rest) := takeWhole input
  let (places, rest) := takePlaces rest
  let (exponent, rest) := takeExponent rest
  if integral = [] then none
  else if places = [] ∧ exponent = [] then
    (Integer.ofNumeral? (sign ++ integral)).map fun value => (Json.whole value, rest)
  else
    (Binary64.read? (sign ++ integral ++ places ++ exponent)).map fun value =>
      (Json.binary value, rest)

/-- A word at the front of a text, and the value that it stands for. -/
def readWord? (input : List Sign) : Option (Json × List Sign) :=
  let words : Named Json :=
    [("null", null), ("true", bool true), ("false", bool false), ("NaN", binary .notNumber),
      ("Infinity", binary (.infinite false)), ("-Infinity", binary (.infinite true))]
  words.findSome? fun entry =>
    if (LooseText.ofString entry.1).signs.isPrefixOf input then
      some (entry.2, input.drop entry.1.length)
    else
      none

/-- A value that holds no others. -/
def readSimple? (input : List Sign) : Option (Json × List Sign) :=
  match input with
  | .char '"' :: rest => (readText? rest).map fun result => (Json.text result.1, result.2)
  | .char '-' :: rest => (readNumber? ['-'] rest).or (readWord? input)
  | _ => (readNumber? [] input).or (readWord? input)

/-- The name of a member with the colon behind it. -/
def readName? (input : List Sign) : Option (LooseText × List Sign) :=
  match input with
  | .char '"' :: behind => do
      let (name, rest) ← readText? behind
      match dropGap rest with
      | .char ':' :: tail => return (name, dropGap tail)
      | _ => none
  | _ => none

/-- What a reader without containers finds. -/
def orMalformed {Value : Type} : Option Value → Except ReadError Value
  | some value => .ok value
  | none => .error .malformed

mutual

/-- A value at the front of a text that so many steps are enough for, with so much room for
containers inside each other. -/
def readValue : Nat → Nat → List Sign → Except ReadError (Json × List Sign)
  | 0, _, _ => .error .malformed
  | bound + 1, room, input =>
      match input with
      | .char '[' :: rest =>
          match room with
          | 0 => .error (.tooDeep .array)
          | room + 1 =>
              match dropGap rest with
              | .char ']' :: behind => .ok (array [], behind)
              | items =>
                  (readItems bound room items).map fun result => (array result.1, result.2)
      | .char '\x7b' :: rest =>
          match room with
          | 0 => .error (.tooDeep .object)
          | room + 1 =>
              match dropGap rest with
              | .char '\x7d' :: behind => .ok (object [], behind)
              | members =>
                  (readMembers bound room [] members).map fun result =>
                    (object result.1, result.2)
      | _ => orMalformed (readSimple? input)

/-- The items of an array up to its end. -/
def readItems : Nat → Nat → List Sign → Except ReadError (List Json × List Sign)
  | 0, _, _ => .error .malformed
  | bound + 1, room, input =>
      match readValue bound room input with
      | .error error => .error error
      | .ok (item, rest) =>
          match dropGap rest with
          | .char ',' :: behind =>
              (readItems bound room (dropGap behind)).map fun result =>
                (item :: result.1, result.2)
          | .char ']' :: behind => .ok ([item], behind)
          | _ => .error .malformed

/-- The members of an object up to its end, behind those already read. -/
def readMembers : Nat → Nat → Named Json LooseText → List Sign →
    Except ReadError (Named Json LooseText × List Sign)
  | 0, _, _, _ => .error .malformed
  | bound + 1, room, members, input =>
      match readName? input with
      | none => .error .malformed
      | some (name, rest) =>
          match readValue bound room rest with
          | .error error => .error error
          | .ok (value, rest) =>
              match dropGap rest with
              | .char ',' :: behind =>
                  readMembers bound room (members.put name value) (dropGap behind)
              | .char '\x7d' :: behind => .ok (members.put name value, behind)
              | _ => .error .malformed

end

/-- The value that a text writes with at most so many containers inside each other.  A bracket takes
two steps, one for its container and one for the first item, and no sign takes more. -/
def readWithin (room : Nat) (input : List Sign) : Except ReadError Json :=
  match readValue (2 * input.length + 1) room (dropGap input) with
  | .ok (value, rest) => if dropGap rest = [] then .ok value else .error .malformed
  | .error error => .error error

/-- The value that a text writes.  No text has more containers than characters. -/
def read? (input : List Char) : Option Json :=
  (readWithin input.length (input.map Sign.char)).toOption

end Cashbook.Json
