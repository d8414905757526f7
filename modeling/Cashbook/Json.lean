import Cashbook.Binary64
import Cashbook.Named
import Cashbook.Text.Loose

/-!
# JSON values

Numbers written as whole numbers are kept exactly and apart from those with a point or an exponent,
which are binary numbers.  Texts and names are loose.  The members of an object stay in order, and
each name occurs once.
-/

namespace Cashbook

/-- A JSON value. -/
inductive Json where
  | null
  | bool (value : Bool)
  /-- A number without point and exponent. -/
  | whole (value : Int)
  /-- A number with a point or an exponent. -/
  | binary (value : Binary64)
  | text (value : LooseText)
  | array (items : List Json)
  | object (members : List (LooseText × Json))

namespace Json

/-- The kinds of values that hold others. -/
inductive Container where
  | array
  | object
deriving DecidableEq

/-- The name of a kind. -/
def Container.name : Container → String
  | array => "array"
  | object => "object"

/-- The member of an object with a name. -/
def member? (name : String) : Json → Option Json
  | object members => Named.get? members (name : LooseText)
  | _ => none

/-- The text, if the value is one. -/
def text? : Json → Option LooseText
  | text value => some value
  | _ => none

end Json

end Cashbook
