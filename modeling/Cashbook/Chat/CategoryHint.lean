import Cashbook.Ledger.Entities
import Cashbook.Text.Case
import Cashbook.Text.Search

/-!
# Categories from hints

A hint is a part of a category's name.  Keywords in a sentence give a hint; the hint gives the
first expense category whose name contains it, letter case aside.
-/

namespace Cashbook.Chat

open Text

/-- A hint and the keywords that give it. -/
structure KeywordRule where
  /-- A part of the category's name. -/
  hint : String
  /-- Words of which one must occur. -/
  keywords : List String
deriving DecidableEq

/-- The rules that hold unless others are given. -/
def defaultRules : List KeywordRule :=
  [⟨"alimenta", ["supermercado", "mercado", "comida", "almoço", "jantar", "café", "lanche",
      "restaurante"]⟩,
   ⟨"transporte", ["uber", "taxi", "ônibus", "gasolina", "combustível", "estacionamento"]⟩]

/-- Does a keyword of the rule occur in a text in small letters? -/
def KeywordRule.applies (rule : KeywordRule) (small : List Char) : Bool :=
  rule.keywords.any fun keyword => occursIn keyword.toList small

/-- The hint of the first rule that applies to a text. -/
def classify (rules : List KeywordRule) (text : List Char) : Option String :=
  let small := lower text
  (rules.find? fun rule => rule.applies small).map KeywordRule.hint

/-- Is this an expense category whose name contains the hint? -/
def isHinted (hint : List Char) (category : Category) : Bool :=
  category.kind == .expense && occursIn (lower hint) (lower category.name.toList)

/-- The first expense category whose name contains the hint; an empty hint gives none. -/
def hintedCategory (categories : List Category) (hint : List Char) : Option Category :=
  if hint = [] then none else categories.find? (isHinted hint)

end Cashbook.Chat
