import Cashbook.Text.Blank
import Cashbook.Text.Case
import Cashbook.Text.Search

/-!
# The bearer scheme

A request proves whom it acts for by a header `Bearer token`.  The scheme is read in any letter
case and ends at the first space; blanks around the header and the token do not count.
-/

namespace Cashbook.Bearer

open Text

/-- The name of the scheme. -/
def scheme : List Char :=
  "bearer".toList

/-- The token that a header carries. -/
def token? (header : Option String) : Option String := do
  let (name, token) ← cut? ' ' (trim ((← header)).toList)
  let token := trim token
  if lower name = scheme ∧ token ≠ [] then some (String.ofList token) else none

end Cashbook.Bearer
