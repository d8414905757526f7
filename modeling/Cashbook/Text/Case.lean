import Cashbook.Text.CaseTables

/-!
# Letter case

Small and capital letters over the whole character set.  Lowering looks at the neighbours of a
capital sigma: at the end of a word it becomes the final form.  Two smaller relations serve places
where only Latin words are compared.
-/

namespace Cashbook.Text

/-- Small letters of one character, its neighbours aside. -/
def lowerChar (c : Char) : List Char :=
  if c.toNat < 0x80 then [c.toLower]
  else if c = 'İ' then ['i', '\u0307']
  else [((CaseRun.image? lowerRuns c.toNat).map Char.ofNat).getD c]

/-- Capital letters of one character. -/
def upperChar (c : Char) : List Char :=
  if c.toNat < 0x80 then [c.toUpper]
  else
    match upperExpansions.lookup c.toNat with
    | some letters => letters.map Char.ofNat
    | none => [((CaseRun.image? upperRuns c.toNat).map Char.ofNat).getD c]

/-- Is the first character that counts for letter case a cased one? -/
def meetsCased (neighbours : List Char) : Bool :=
  match neighbours.dropWhile fun c => caseIgnorableRanges.holds c.toNat with
  | [] => false
  | c :: _ => casedRanges.holds c.toNat

/-- Small letters of a text that follows the given characters, nearest first. -/
def lowerAfter (before : List Char) : List Char → List Char
  | [] => []
  | c :: rest =>
      let small :=
        if c = 'Σ' then [if meetsCased before && !meetsCased rest then 'ς' else 'σ']
        else lowerChar c
      small ++ lowerAfter (c :: before) rest

/-- A text in small letters. -/
def lower (text : List Char) : List Char :=
  lowerAfter [] text

/-- A text in capital letters. -/
def upper (text : List Char) : List Char :=
  text.flatMap upperChar

/-- Does the character write this small Latin letter, letter case aside?  The long s and the two
Turkish forms of i count as s and i. -/
def writesLetter (letter c : Char) : Bool :=
  c.toLower == letter || (letter == 's' && c == 'ſ') || (letter == 'i' && (c == 'İ' || c == 'ı'))

/-- Cuts a word off the front of a text, letter case aside. -/
def dropWord? : List Char → List Char → Option (List Char)
  | [], text => some text
  | _ :: _, [] => none
  | letter :: word, c :: rest => if writesLetter letter c then dropWord? word rest else none

/-- The Latin letters that a character stands for when letter case is folded away.  Characters
whose folded form is not Latin stay as they are, and so equal no Latin word. -/
def latinFold (c : Char) : List Char :=
  match c with
  | 'ß' | 'ẞ' => ['s', 's']
  | 'ſ' => ['s']
  | '\u212a' => ['k']
  | 'ﬀ' => ['f', 'f']
  | 'ﬁ' => ['f', 'i']
  | 'ﬂ' => ['f', 'l']
  | 'ﬃ' => ['f', 'f', 'i']
  | 'ﬄ' => ['f', 'f', 'l']
  | 'ﬅ' | 'ﬆ' => ['s', 't']
  | _ => [c.toLower]

end Cashbook.Text
