import Cashbook.Binary64.Shortest
import Cashbook.Integer
import Cashbook.Service.ApiTokens
import Cashbook.Text.Case

/-!
# Settings of the service

The settings come from environment variables.  Whoever starts the service may override each of
them, but variables that cannot be read are errors even then.  The deadline of a request is a
number of seconds, and one that is zero or less is refused.
-/

namespace Cashbook

open Text

/-- Environment variables. -/
abbrev Environment := Named String

/-- The variable of the database. -/
def Environment.databaseUrl : String :=
  "FINCHAT_DATABASE_URL"

/-- The variable of the deadline. -/
def Environment.requestTimeout : String :=
  "FINCHAT_REQUEST_TIMEOUT"

/-- The variable of the tokens. -/
def Environment.apiTokens : String :=
  "FINCHAT_API_TOKENS"

/-- The variable of the level of logging. -/
def Environment.logLevel : String :=
  "FINCHAT_LOG_LEVEL"

/-- A number of seconds. -/
inductive Timeout where
  | whole (seconds : Int)
  | binary (seconds : Binary64)
deriving DecidableEq

/-- A number of seconds in digits. -/
def Timeout.toText : Timeout → String
  | whole seconds => String.ofList (Integer.toText seconds)
  | binary seconds => String.ofList seconds.toText

/-- The settings of the service. -/
structure Settings where
  /-- Where the ledger is kept. -/
  databaseUrl : String
  /-- How long a request may take. -/
  requestTimeout : Timeout
  /-- The tokens of owners. -/
  apiTokens : ApiTokens
  /-- The level of logging. -/
  logLevel : String
deriving DecidableEq

/-- Settings that win over the environment. -/
structure Overrides where
  /-- Where the ledger is kept. -/
  databaseUrl : Option String := none
  /-- How long a request may take. -/
  requestTimeout : Option Timeout := none
  /-- The tokens of owners. -/
  apiTokens : Option ApiTokens := none
  /-- The level of logging. -/
  logLevel : Option String := none
  /-- The names of overrides that are no setting. -/
  unknown : List String := []

/-- Where the service runs, as far as the default place of the ledger depends on it. -/
structure Site where
  /-- The place that the process is told, if it is. -/
  processUrl : Option String
  /-- The home directory. -/
  home : String

/-- The place of the ledger below the home directory. -/
def Site.homeUrl (site : Site) : String :=
  "sqlite:///" ++ site.home ++ "/.finchat/finchat.db"

/-- The place of the ledger where nothing else is said. -/
def Site.databaseUrl (site : Site) : String :=
  match site.processUrl with
  | some url => if url = "" then site.homeUrl else url
  | none => site.homeUrl

/-- Why there are no settings. -/
inductive SettingsError where
  | unreadableTimeout (text : String)
  | timeoutNotPositive
  | malformedToken (pair : String)
  | unknownOverride (name : String)
deriving DecidableEq

/-- The wording of an error. -/
def SettingsError.message : SettingsError → String
  | unreadableTimeout text => "Invalid " ++ Environment.requestTimeout ++ ": '" ++ text ++ "'"
  | timeoutNotPositive => Environment.requestTimeout ++ " must be positive"
  | malformedToken pair =>
      "Invalid " ++ Environment.apiTokens ++ " entry: '" ++ pair ++ "' (expected token=owner)"
  | unknownOverride name =>
      "Settings.__init__() got an unexpected keyword argument '" ++ name ++ "'"

namespace Settings

/-- The deadline that a text configures. -/
def readTimeout (text : String) : Except SettingsError Binary64 :=
  match Binary64.read? text.toList with
  | none => .error (.unreadableTimeout text)
  | some seconds => if seconds.isNotPositive then .error .timeoutNotPositive else .ok seconds

/-- The tokens that a text configures. -/
def readTokens (text : String) : Except SettingsError ApiTokens :=
  match ApiTokens.read text with
  | .ok tokens => .ok tokens
  | .error pair => .error (.malformedToken pair)

/-- A text in capital letters. -/
def capitals (text : String) : String :=
  String.ofList (upper text.toList)

/-- The place of the ledger: the override, else the environment, else the site.  An empty variable
counts as none. -/
def chooseUrl (environment : Environment) (override : Option String) (site : Site) : String :=
  match override, environment.get? Environment.databaseUrl with
  | some url, _ => url
  | none, some url => if url = "" then site.databaseUrl else url
  | none, none => site.databaseUrl

/-- The settings in an environment. -/
def ofEnvironment (environment : Environment) (overrides : Overrides) (site : Site) :
    Except SettingsError Settings := do
  let seconds ← readTimeout ((environment.get? Environment.requestTimeout).getD "5")
  let tokens ← readTokens ((environment.get? Environment.apiTokens).getD "")
  let level := capitals ((environment.get? Environment.logLevel).getD "INFO")
  match overrides.unknown with
  | name :: _ => throw (.unknownOverride name)
  | [] =>
      return {
        databaseUrl := chooseUrl environment overrides.databaseUrl site
        requestTimeout := overrides.requestTimeout.getD (.binary seconds)
        apiTokens := overrides.apiTokens.getD tokens
        logLevel := overrides.logLevel.getD level }

end Settings

end Cashbook
