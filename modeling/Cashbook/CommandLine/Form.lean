import Cashbook.CommandLine.Words
import Cashbook.Named
import Cashbook.Text.Case
import Cashbook.Text.Letter

/-!
# Forms

A form lists the parameters of a command and puts what they give together.  Parameters are checked
in the order in which the user wrote them: the options that are given first, then the arguments,
then the options that are not given, as the form lists them.
-/

namespace Cashbook.CommandLine

open Text

/-- Where a parameter stands. -/
inductive Place where
  | option (name : String)
  | argument (name : String)
deriving DecidableEq

/-- A parameter with the check of what is given for it. -/
structure Parameter where
  /-- Where it stands. -/
  place : Place
  /-- Checks what is given for it. -/
  check : Given → Except UsageError Unit

/-- Parameters and what they make of what is given. -/
structure Form (Value : Type) where
  /-- The parameters. -/
  parameters : List Parameter
  /-- What they make of what is given. -/
  value : Given → Except UsageError Value

namespace Form

/-- A form with one parameter. -/
def single {Value : Type} (place : Place) (value : Given → Except UsageError Value) : Form Value :=
  ⟨[⟨place, fun given => (value given).map fun _ => ()⟩], value⟩

/-- A form without parameters. -/
def constant {Value : Type} (value : Value) : Form Value :=
  ⟨[], fun _ => .ok value⟩

/-- A form that changes what another one makes. -/
def map {First Second : Type} (change : First → Second) (form : Form First) : Form Second :=
  ⟨form.parameters, fun given => (form.value given).map change⟩

/-- The parameters of two forms, of which the first makes a function of what the second makes. -/
def apply {First Second : Type} (function : Form (First → Second)) (form : Unit → Form First) :
    Form Second :=
  let form := form ()
  ⟨function.parameters ++ form.parameters, fun given => do
    let change ← function.value given
    return change (← form.value given)⟩

instance : Applicative Form where
  pure := constant
  map := map
  seq := apply

/-- An option that need not be given. -/
def option (name : String) : Form (Option String) :=
  single (.option name) fun given => .ok (given.value? name)

/-- An option with a value where it is not given. -/
def optionOr (name fallback : String) : Form String :=
  (option name).map fun value => value.getD fallback

/-- An option that must be given. -/
def required (name : String) : Form String :=
  single (.option name) fun given =>
    match given.value? name with
    | some value => .ok value
    | none => .error (.optionMissing name)

/-- The only argument. -/
def argument (name : String) : Form String :=
  single (.argument name) fun given =>
    match given.arguments with
    | value :: _ => .ok value
    | [] => .error (.argumentMissing name)

/-- A word with letter case folded away, as far as it is Latin. -/
def folded (word : String) : List Char :=
  word.toList.flatMap latinFold

/-- An option that names one of some choices, in any letter case. -/
def choice {Choice : Type} (name : String) (choices : List Choice) (nameOf : Choice → String)
    (fallback : Choice) : Form Choice :=
  single (.option name) fun given =>
    match given.value? name with
    | none => .ok fallback
    | some value =>
        match choices.find? fun choice => (nameOf choice).toList = folded value with
        | some choice => .ok choice
        | none => .error (.notOneOf name value (choices.map nameOf))

/-- An option that is a whole number. -/
def whole (name : String) : Form (Option Int) :=
  single (.option name) fun given =>
    match given.value? name with
    | none => .ok none
    | some value =>
        match Integer.read? value.toList with
        | some number => .ok (some number)
        | none => .error (.notWhole name value)

/-- An option that is a whole number of a range. -/
def wholeIn (name : String) (range : Range) (fallback : Int) : Form Int :=
  single (.option name) fun given =>
    match given.value? name with
    | none => .ok fallback
    | some value =>
        match Integer.read? value.toList with
        | none => .error (.notWholeInRange name value)
        | some number =>
            if range.holds number then .ok number else .error (.outOfRange name number range)

/-- The name of a parameter that is an option. -/
def optionName? (parameter : Parameter) : Option String :=
  match parameter.place with
  | .option name => some name
  | .argument _ => none

/-- The parameters in the order in which they are checked. -/
def inOrder (parameters : List Parameter) (given : Given) : List Parameter :=
  let names := (given.options.map Prod.fst).eraseDups
  let written := names.flatMap fun name =>
    parameters.filter fun parameter => optionName? parameter = some name
  let arguments := parameters.filter fun parameter => (optionName? parameter).isNone
  let others := parameters.filter fun parameter =>
    match optionName? parameter with
    | some name => !names.contains name
    | none => false
  written ++ arguments ++ others

/-- Checks every parameter in order, and that no argument is left. -/
def check {Value : Type} (form : Form Value) (given : Given) : Except UsageError Unit := do
  (inOrder form.parameters given).forM fun parameter => parameter.check given
  let taken := form.parameters.countP fun parameter => (optionName? parameter).isNone
  match given.arguments.drop taken with
  | [] => return ()
  | left => throw (.argumentsLeft left)

/-- What the words behind the name of a command make of a form. -/
def read {Value : Type} (form : Form Value) (words : List String) :
    Except Interruption Value := do
  let given ← (Given.ofWords (form.parameters.filterMap optionName?) true words).mapError .misuse
  if given.help then
    throw .help
  (form.check given).mapError .misuse
  (form.value given).mapError .misuse

end Form

/-- A word that begins with neither a letter nor a number looks like an option. -/
def looksLikeOption (word : String) : Bool :=
  match word.toList with
  | c :: _ => !(isWordChar c) || c == '_'
  | [] => false

/-- What words make of a choice of commands, each with a reading of the words behind its name. -/
def readCommand {Value : Type} (commands : Named (List String → Except Interruption Value))
    (words : List String) : Except Interruption Value :=
  match words with
  | [] => .error (.misuse .commandMissing)
  | name :: rest =>
      match commands.get? name with
      | some read => read rest
      | none =>
          if looksLikeOption name then .error .help else .error (.misuse (.unknownCommand name))

/-- What words make of a group of commands that has no options of its own. -/
def readGroup {Value : Type} (commands : Named (List String → Except Interruption Value))
    (words : List String) : Except Interruption Value := do
  if words.isEmpty then
    throw .help
  let given ← (Given.ofWords [] false words).mapError .misuse
  if given.help then
    throw .help
  readCommand commands given.arguments

end Cashbook.CommandLine
