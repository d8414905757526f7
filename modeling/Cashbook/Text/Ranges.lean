/-!
# Tables of character ranges

A property of characters is a table of closed ranges of scalar values in increasing order.
-/

namespace Cashbook.Text

/-- Closed ranges of scalar values, in increasing order. -/
abbrev Ranges := List (Nat × Nat)

/-- Does some range hold this scalar value?  The ranges increase, so the first one that does not
end before the value decides. -/
def Ranges.holds : Ranges → Nat → Bool
  | [], _ => false
  | (first, last) :: rest, value =>
      if value ≤ last then decide (first ≤ value) else Ranges.holds rest value

end Cashbook.Text
