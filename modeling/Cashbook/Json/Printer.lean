import Cashbook.Binary64.Shortest
import Cashbook.Integer
import Cashbook.Json
import Cashbook.Text.Quoted

/-!
# Writing JSON values

A value is written as JSON, or spelled out in words for places where any value may stand for a
name: texts as they are, other values in the notation of literals.
-/

namespace Cashbook.Json

open Text

/-- One character of a text value. -/
def escape (c : Char) : List Char :=
  if c = '"' ∨ c = '\\' then ['\\', c]
  else if c = '\n' then ['\\', 'n']
  else if c = '\r' then ['\\', 'r']
  else if c = '\t' then ['\\', 't']
  else if c.toNat < 0x20 then ['\\', 'u'] ++ hexText 4 c.toNat
  else [c]

/-- One sign of a text value. -/
def escapeSign : Sign → List Char
  | .char c => escape c
  | .half surrogate => ['\\', 'u'] ++ hexText 4 surrogate.number

/-- A text value. -/
def textLiteral (value : LooseText) : List Char :=
  '"' :: (value.signs.flatMap escapeSign ++ ['"'])

/-- Parts with a separator between neighbours. -/
def separated (separator : List Char) (parts : List (List Char)) : List Char :=
  separator.intercalate parts

mutual

/-- A value as JSON. -/
def toText : Json → List Char
  | null => "null".toList
  | bool true => "true".toList
  | bool false => "false".toList
  | whole value => Integer.toText value
  | binary value => value.toText
  | text value => textLiteral value
  | array items => '[' :: (separated [',', ' '] (itemTexts items) ++ [']'])
  | object members => '\x7b' :: (separated [',', ' '] (memberTexts members) ++ ['\x7d'])

/-- The items of an array. -/
def itemTexts : List Json → List (List Char)
  | [] => []
  | item :: rest => toText item :: itemTexts rest

/-- The members of an object. -/
def memberTexts : List (LooseText × Json) → List (List Char)
  | [] => []
  | (name, value) :: rest => (textLiteral name ++ ':' :: ' ' :: toText value) :: memberTexts rest

end

mutual

/-- A value in the notation of literals. -/
def literal : Json → List Char
  | null => "None".toList
  | bool true => "True".toList
  | bool false => "False".toList
  | whole value => Integer.toText value
  | binary value => value.toText
  | text value => quotedLoose value
  | array items => '[' :: (separated [',', ' '] (itemLiterals items) ++ [']'])
  | object members => '\x7b' :: (separated [',', ' '] (memberLiterals members) ++ ['\x7d'])

/-- The items of an array in the notation of literals. -/
def itemLiterals : List Json → List (List Char)
  | [] => []
  | item :: rest => literal item :: itemLiterals rest

/-- The members of an object in the notation of literals. -/
def memberLiterals : List (LooseText × Json) → List (List Char)
  | [] => []
  | (name, value) :: rest =>
      (quotedLoose name ++ ':' :: ' ' :: literal value) :: memberLiterals rest

end

/-- A value spelled out: a text as it is, any other value as a literal. -/
def spelledOut : Json → LooseText
  | text value => value
  | value => String.ofList (literal value)

end Cashbook.Json
