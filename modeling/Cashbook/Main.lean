import Cashbook.CommandLine.Run

/-!
# The program

Runs the command that the arguments ask for on a new ledger.  The current day is the value of a
variable of the environment, so that a run can be repeated.
-/

namespace Cashbook.Main

/-- The variable of the current day. -/
def todayVariable : String :=
  "CASHBOOK_TODAY"

/-- The variables of the environment that commands read. -/
def variableNames : List String :=
  [CommandLine.Invocation.ownerVariable, Environment.databaseUrl, Environment.requestTimeout,
    Environment.apiTokens, Environment.logLevel]

/-- The first day of the year 2000, for want of another. -/
def defaultDay : Date :=
  ⟨2000, 1, 1, by decide⟩

/-- The world of a new ledger on a day. -/
def newWorld (today : Date) : World :=
  { ledger := .empty, today := today, now := ⟨today, 0⟩ }

/-- Reads the variables that are set. -/
def readEnvironment : IO Environment := do
  let values ← variableNames.mapM fun name => do
    return (← IO.getEnv name).map fun value => (name, value)
  return values.filterMap id

/-- Shows how a command ends and gives the exit code. -/
def report : EStateM.Result Failure World CommandLine.Ending → IO UInt32
  | .ok ending _ => do
      IO.print ending.printed
      IO.eprint ending.complained
      return UInt32.ofNat ending.exitCode
  | .error failure _ => do
      IO.eprintln failure.message
      return 1

/-- Runs the command that words ask for on a new ledger. -/
def run (words : List String) : IO UInt32 := do
  let environment ← readEnvironment
  let day ← IO.getEnv todayVariable
  let today := (day.bind fun text => Date.read? text.toList).getD defaultDay
  let home := (← IO.getEnv "HOME").getD ""
  let site : Site := ⟨environment.get? Environment.databaseUrl, home⟩
  report (CommandLine.run environment site words (newWorld today))

end Cashbook.Main

/-- Runs the command that the arguments ask for. -/
def main (arguments : List String) : IO UInt32 :=
  Cashbook.Main.run arguments
