/-!
# Plain text

What commands show is plain text.  Sequences that would color a terminal or move its cursor are
left out, and a line ends in a line feed alone.
-/

namespace Cashbook.CommandLine.Plain

/-- The character that begins a sequence for the terminal. -/
def escape : Char :=
  '\x1b'

/-- May the character stand between the bracket and the letter of a sequence? -/
def isParameter (c : Char) : Bool :=
  c.isDigit || c == ';' || c == '?'

/-- The length of the sequence at the front of a text, without the character that begins it: a
bracket, parameters and a letter. -/
def sequenceLength? : List Char → Option Nat
  | '[' :: rest =>
      let parameters := rest.takeWhile isParameter
      if (rest.drop parameters.length).head?.any Char.isAlpha then some (parameters.length + 2)
      else none
  | _ => none

/-- A text without sequences for the terminal, behind so many characters of one. -/
def dropSequencesBehind : Nat → List Char → List Char
  | _, [] => []
  | used + 1, _ :: rest => dropSequencesBehind used rest
  | 0, c :: rest =>
      if c = escape then
        match sequenceLength? rest with
        | some length => dropSequencesBehind length rest
        | none => c :: dropSequencesBehind 0 rest
      else
        c :: dropSequencesBehind 0 rest

/-- A text without sequences for the terminal. -/
def dropSequences (text : List Char) : List Char :=
  dropSequencesBehind 0 text

/-- A text in which no carriage return stands in front of a line feed. -/
def joinLineEnds : List Char → List Char
  | '\r' :: '\n' :: rest => '\n' :: joinLineEnds rest
  | c :: rest => c :: joinLineEnds rest
  | [] => []

/-- The plain form of a text. -/
def ofText (text : String) : String :=
  String.ofList (joinLineEnds (dropSequences text.toList))

end Cashbook.CommandLine.Plain
