/-!
# Similar words

How alike two words are: twice the number of characters in their matching blocks over the sum of
their lengths.  The matching blocks are found from the longest common block, the earliest one in
the first word and then in the second, and then on both sides of it.  Words that are at least six
tenths alike are suggested for one another.
-/

namespace Cashbook.Text

/-- The length of the longest common start of two words. -/
def commonStart : List Char → List Char → Nat
  | c :: first, d :: second => if c = d then commonStart first second + 1 else 0
  | _, _ => 0

/-- A block of characters that two words share: where it starts in each, and its length. -/
structure Block where
  /-- Where the block starts in the first word. -/
  inFirst : Nat
  /-- Where the block starts in the second word. -/
  inSecond : Nat
  /-- The number of characters in the block. -/
  size : Nat

/-- The longest common block; of several the one that starts first in the first word, and then in
the second. -/
def longestBlock (first second : List Char) : Block :=
  let starts := (List.range first.length).flatMap fun i =>
    (List.range second.length).map fun j =>
      Block.mk i j (commonStart (first.drop i) (second.drop j))
  starts.foldl (fun best block => if best.size < block.size then block else best) ⟨0, 0, 0⟩

/-- The number of characters in matching blocks, for words of at most the given length. -/
def matchingWithin : Nat → List Char → List Char → Nat
  | 0, _, _ => 0
  | length + 1, first, second =>
      let block := longestBlock first second
      if block.size = 0 then 0
      else
        matchingWithin length (first.take block.inFirst) (second.take block.inSecond)
          + block.size
          + matchingWithin length (first.drop (block.inFirst + block.size))
              (second.drop (block.inSecond + block.size))

/-- The number of characters in matching blocks. -/
def matching (first second : List Char) : Nat :=
  matchingWithin (first.length + 1) first second

/-- A candidate with the measure of its likeness: twice the matching characters, and the sum of
the lengths. -/
structure Likeness where
  /-- The candidate. -/
  word : String
  /-- Twice the number of matching characters. -/
  matched : Nat
  /-- The sum of both lengths. -/
  total : Nat

/-- The likeness of a candidate to a word. -/
def likeness (word candidate : String) : Likeness :=
  ⟨candidate, 2 * matching candidate.toList word.toList, candidate.length + word.length⟩

/-- At least six tenths alike. -/
def Likeness.isClose (measure : Likeness) : Bool :=
  decide (6 * measure.total ≤ 10 * measure.matched)

/-- More alike, and for equal measures later in the order of characters. -/
def Likeness.isBefore (first second : Likeness) : Bool :=
  let left := first.matched * second.total
  let right := second.matched * first.total
  decide (right < left) || (left == right && decide (second.word ≤ first.word))

/-- The three candidates most like a word among those close to it, best first. -/
def closeMatches (word : String) (candidates : List String) : List String :=
  ((((candidates.map (likeness word)).filter Likeness.isClose).mergeSort Likeness.isBefore).take
    3).map Likeness.word

end Cashbook.Text
