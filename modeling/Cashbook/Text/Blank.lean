/-!
# Blanks

Two sets of characters count as empty space.  White space is the property that numerals are
trimmed by; a blank is white space or one of the four information separators, and it is what
texts are trimmed and cut into words by.
-/

namespace Cashbook.Text

/-- White space in the sense of the character standard. -/
def isWhiteSpace (c : Char) : Bool :=
  let value := c.toNat
  (0x09 ≤ value && value ≤ 0x0d) || value == 0x20 || value == 0x85 || value == 0xa0
    || value == 0x1680 || (0x2000 ≤ value && value ≤ 0x200a) || value == 0x2028
    || value == 0x2029 || value == 0x202f || value == 0x205f || value == 0x3000

/-- White space or an information separator. -/
def isBlank (c : Char) : Bool :=
  isWhiteSpace c || (0x1c ≤ c.toNat && c.toNat ≤ 0x1f)

/-- White space is blank. -/
theorem isBlank_of_isWhiteSpace {c : Char} (h : isWhiteSpace c = true) : isBlank c = true := by
  simp [isBlank, h]

/-- Cuts the characters with a property off both ends. -/
def trimBy (drop : Char → Bool) (text : List Char) : List Char :=
  ((text.dropWhile drop).reverse.dropWhile drop).reverse

/-- Cuts the blanks off both ends. -/
def trim (text : List Char) : List Char :=
  trimBy isBlank text

/-- The words of a text: its longest runs without blanks, in order. -/
def words (text : List Char) : List (List Char) :=
  (text.splitOnP isBlank).filter fun word => !word.isEmpty

/-- Writes words with one space between neighbours. -/
def joinWords (parts : List (List Char)) : List Char :=
  [' '].intercalate parts

/-- No word is empty. -/
theorem ne_nil_of_mem_words {text word : List Char} (h : word ∈ words text) : word ≠ [] := by
  simpa using (List.mem_filter.1 h).2

end Cashbook.Text
