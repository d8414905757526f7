import Cashbook.CommandLine.Usage
import Cashbook.Text.Search
import Cashbook.Text.Similarity

/-!
# Options and arguments

Words that begin with a dash are options, each with a value that is attached by an equals sign or
is the next word; all other words are arguments.  Behind two dashes that stand alone every word is
an argument.
-/

namespace Cashbook.CommandLine

open Text

/-- The option that asks for help, the only one without a value. -/
def helpOption : String :=
  "--help"

/-- What words give: options in the order of writing, and arguments. -/
structure Given where
  /-- Is help asked for? -/
  help : Bool := false
  /-- Options with their values. -/
  options : List (String × String) := []
  /-- Arguments. -/
  arguments : List String := []
deriving DecidableEq

namespace Given

/-- The value of an option; of several the last one. -/
def value? (given : Given) (option : String) : Option String :=
  given.options.reverse.lookup option

/-- Is this word an option? -/
def isOption (word : List Char) : Bool :=
  word.head? == some '-' && 1 < word.length

/-- The name of an option in a word, and the value attached to it. -/
def splitOption (word : List Char) : String × Option String :=
  match cut? '=' word with
  | some (name, value) => (String.ofList name, some (String.ofList value))
  | none => (String.ofList word, none)

/-- The error about an unknown option.  One that begins with a single dash is taken for a letter
that stands for an option, and there are none of those. -/
def unknown (names : List String) (word : List Char) : UsageError :=
  match word with
  | '-' :: '-' :: _ =>
      let name := (splitOption word).1
      .unknownOption name (closeMatches name (names ++ [helpOption]))
  | _ => .unknownOption (String.ofList (word.take 2)) []

/-- What words give where the options with these names are known.  Where options may not follow
arguments, everything from the first argument on is an argument. -/
def ofWords (names : List String) (mixed : Bool) : List String → Except UsageError Given
  | [] => .ok {}
  | word :: rest =>
      if word = "--" then .ok { arguments := rest }
      else if isOption word.toList then
        let (name, attached) := splitOption word.toList
        if name = helpOption then
          if attached.isSome then .error (.valueUnwanted name)
          else do return { (← ofWords names mixed rest) with help := true }
        else if names.contains name then
          match attached, rest with
          | some value, rest => do
              let given ← ofWords names mixed rest
              return { given with options := (name, value) :: given.options }
          | none, value :: behind => do
              let given ← ofWords names mixed behind
              return { given with options := (name, value) :: given.options }
          | none, [] => .error (.valueMissing name)
        else
          .error (unknown names word.toList)
      else if mixed then do
        let given ← ofWords names mixed rest
        return { given with arguments := word :: given.arguments }
      else
        .ok { arguments := word :: rest }

end Given

end Cashbook.CommandLine
