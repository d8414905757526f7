import Cashbook.Named
import Cashbook.Text.Blank
import Cashbook.Text.Search

/-!
# Tokens and their owners

A table of tokens tells which owner a bearer of a token acts for.  It is configured as pairs
`token=owner` between commas; blanks around each part do not count, and neither do blank pairs.
-/

namespace Cashbook

open Text

/-- Tokens with the owners they stand for; each token occurs once. -/
abbrev ApiTokens := Named String

namespace ApiTokens

/-- The owner that a token stands for. -/
def owner? (tokens : ApiTokens) (token : String) : Option String :=
  tokens.get? token

/-- The pair that a text writes. -/
def readPair? (pair : List Char) : Option (String × String) := do
  let (token, owner) ← cut? '=' pair
  let token := trim token
  let owner := trim owner
  if token = [] ∨ owner = [] then none
  else some (String.ofList token, String.ofList owner)

/-- Adds pairs in order; the first one that cannot be read is the error. -/
def readPairs (tokens : ApiTokens) : List (List Char) → Except String ApiTokens
  | [] => .ok tokens
  | pair :: rest =>
      let pair := trim pair
      if pair = [] then readPairs tokens rest
      else
        match readPair? pair with
        | some (token, owner) => readPairs (Named.put tokens token owner) rest
        | none => .error (String.ofList pair)

/-- The table that a text configures, or the pair that cannot be read. -/
def read (text : String) : Except String ApiTokens :=
  readPairs [] (text.toList.splitOn ',')

end ApiTokens

end Cashbook
