import Cashbook.Text.Blank
import Cashbook.Text.Letter

/-!
# Tokens of a date phrase

A date phrase falls into words, numbers, blanks and single marks.  A point may end an
abbreviation, divide a number or divide parts of a date, so a run of letters, digits and points is
first read as a whole; it is broken at its points and commas when it holds more than one point,
ends in one, or mixes letters with them.  A single comma in a number counts as its point.
-/

namespace Cashbook.Date.Phrase

open Text

/-- A token of a date phrase. -/
abbrev Token := List Char

/-- What the run under way consists of. -/
inductive RunKind where
  | word
  | number
  | dottedWord
  | dottedNumber
deriving DecidableEq

/-- A run under way. -/
structure Run where
  /-- What the run consists of. -/
  kind : RunKind
  /-- The characters so far, the last one first. -/
  reversed : List Char
  /-- Has a character been offered to the run while it was one of letters? -/
  lettersSeen : Bool

/-- Breaks a run at its points and commas, which stay as tokens of their own. -/
def splitAtPoints : List Char → List Token
  | [] => [[]]
  | c :: rest =>
      if c = '.' ∨ c = ',' then [] :: [c] :: splitAtPoints rest
      else
        match splitAtPoints rest with
        | [] => [[c]]
        | piece :: pieces => (c :: piece) :: pieces

/-- The tokens of a finished run. -/
def Run.tokens (run : Run) : List Token :=
  let text := run.reversed.reverse
  let dotted := run.kind = .dottedWord ∨ run.kind = .dottedNumber
  let ends := run.reversed.head?
  if dotted ∧ (run.lettersSeen ∨ 1 < text.count '.' ∨ ends = some '.' ∨ ends = some ',') then
    (splitAtPoints text).filter (· ≠ [])
  else if run.kind = .dottedNumber ∧ text.count '.' = 0 then
    [text.map fun c => if c = ',' then '.' else c]
  else
    [text]

/-- The run with one more character, or nothing when the character does not continue it. -/
def Run.extend? (run : Run) (c : Char) : Option Run :=
  let grown (kind : RunKind) (seen : Bool) : Option Run := some ⟨kind, c :: run.reversed, seen⟩
  match run.kind with
  | .word =>
      if isLetter c then grown .word true
      else if c = '.' then grown .dottedWord true
      else none
  | .number =>
      if showsDigit c then grown .number run.lettersSeen
      else if c = '.' ∨ (c = ',' ∧ 2 ≤ run.reversed.length) then
        grown .dottedNumber run.lettersSeen
      else none
  | .dottedWord =>
      if c = '.' ∨ isLetter c then grown .dottedWord true
      else if showsDigit c ∧ run.reversed.head? = some '.' then grown .dottedNumber true
      else none
  | .dottedNumber =>
      if c = '.' ∨ showsDigit c then grown .dottedNumber run.lettersSeen
      else if isLetter c ∧ run.reversed.head? = some '.' then
        grown .dottedWord run.lettersSeen
      else none

/-- A run together with the fact that a character was offered to it in vain. -/
def Run.refuse (run : Run) : Run :=
  { run with
    lettersSeen := run.lettersSeen || run.kind = .word || run.kind = .dottedWord }

/-- What a character starts: a run, or a token of its own. -/
def start (c : Char) : Run ⊕ Token :=
  if isLetter c then .inl ⟨.word, [c], false⟩
  else if showsDigit c then .inl ⟨.number, [c], false⟩
  else if isBlank c then .inr [' ']
  else .inr [c]

/-- The tokens of a text behind a run under way. -/
def tokensAfter : Option Run → List Char → List Token
  | none, [] => []
  | some run, [] => run.tokens
  | none, c :: rest =>
      match start c with
      | .inl begun => tokensAfter (some begun) rest
      | .inr token => token :: tokensAfter none rest
  | some run, c :: rest =>
      match run.extend? c with
      | some longer => tokensAfter (some longer) rest
      | none =>
          run.refuse.tokens ++
            match start c with
            | .inl begun => tokensAfter (some begun) rest
            | .inr token => token :: tokensAfter none rest

/-- The tokens of a date phrase.  NUL characters do not count. -/
def tokens (text : List Char) : List Token :=
  tokensAfter none (text.filter (· ≠ '\x00'))

end Cashbook.Date.Phrase
