import Cashbook.Integer
import Cashbook.Text.Quoted

/-!
# Misuse of the command line

Why words do not make a command, and the line that tells the user.
-/

namespace Cashbook.CommandLine

open Text

/-- The whole numbers from a lowest one on, or between two. -/
structure Range where
  /-- The lowest number. -/
  low : Int
  /-- The highest number. -/
  high : Option Int := none
deriving DecidableEq

/-- A whole number in digits. -/
def digits (number : Int) : String :=
  String.ofList (Integer.toText number)

/-- Does the range hold a number? -/
def Range.holds (range : Range) (number : Int) : Bool :=
  decide (range.low ≤ number) &&
    match range.high with
    | some high => decide (number ≤ high)
    | none => true

/-- The condition that a range puts on a number. -/
def Range.condition (range : Range) : String :=
  match range.high with
  | some high => digits range.low ++ "<=x<=" ++ digits high
  | none => "x>=" ++ digits range.low

/-- Why words do not make a command. -/
inductive UsageError where
  /-- There is no such option, but there are options with similar names. -/
  | unknownOption (name : String) (similar : List String)
  | valueMissing (option : String)
  | valueUnwanted (option : String)
  | optionMissing (option : String)
  | argumentMissing (name : String)
  /-- There are more arguments than the command takes. -/
  | argumentsLeft (words : List String)
  | unknownCommand (name : String)
  | commandMissing
  | notOneOf (option value : String) (names : List String)
  | notWhole (option value : String)
  /-- The value for a range of whole numbers is none. -/
  | notWholeInRange (option value : String)
  | outOfRange (option : String) (value : Int) (range : Range)
deriving DecidableEq

/-- A text between quotes. -/
def quotedText (text : String) : String :=
  String.ofList (quoted text.toList)

/-- The hint at similar options. -/
def similarHint : List String → String
  | [] => ""
  | [name] => " Did you mean " ++ name ++ "?"
  | names => " (Possible options: " ++ ", ".intercalate (names.mergeSort fun a b => a ≤ b) ++ ")"

/-- The wording about a value of an option. -/
def invalidValue (option complaint : String) : String :=
  "Invalid value for '" ++ option ++ "': " ++ complaint

/-- The wording of an error. -/
def UsageError.message : UsageError → String
  | unknownOption name similar => "No such option: " ++ name ++ similarHint similar
  | valueMissing option => "Option " ++ quotedText option ++ " requires an argument."
  | valueUnwanted option => "Option " ++ quotedText option ++ " does not take a value."
  | optionMissing option => "Missing option '" ++ option ++ "'."
  | argumentMissing name => "Missing argument '" ++ name ++ "'."
  | argumentsLeft [word] => "Got unexpected extra argument (" ++ word ++ ")"
  | argumentsLeft words => "Got unexpected extra arguments (" ++ " ".intercalate words ++ ")"
  | unknownCommand name => "No such command " ++ quotedText name ++ "."
  | commandMissing => "Missing command."
  | notOneOf option value names =>
      invalidValue option
        (quotedText value ++ " is not one of " ++ ", ".intercalate (names.map quotedText) ++ ".")
  | notWhole option value => invalidValue option (quotedText value ++ " is not a valid integer.")
  | notWholeInRange option value =>
      invalidValue option (quotedText value ++ " is not a valid integer range.")
  | outOfRange option value range =>
      invalidValue option (digits value ++ " is not in the range " ++ range.condition ++ ".")

/-- Why reading words stops before there is a command. -/
inductive Interruption where
  /-- The user asks for help. -/
  | help
  | misuse (error : UsageError)
deriving DecidableEq

end Cashbook.CommandLine
