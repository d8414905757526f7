import Cashbook.CommandLine.Command
import Cashbook.CommandLine.Plain
import Cashbook.Chat.Dispatch
import Cashbook.Date.Phrase
import Cashbook.Ledger.AccountName

/-!
# Running commands

A command ends with a line about what it did, or with a line about why it did nothing and an exit
code that tells so.  Failures that no line is for leave the command without an ending.
-/

namespace Cashbook.CommandLine

open Call Money Text

/-- Where requests are to be served. -/
structure Endpoint where
  /-- The interface. -/
  host : String
  /-- The socket of the interface. -/
  socket : Int
  /-- The level of logging, in small letters. -/
  logLevel : String
deriving DecidableEq

/-- How a command ends. -/
structure Ending where
  /-- Zero if the command did what it was asked for. -/
  exitCode : Nat := 0
  /-- What it prints. -/
  printed : String := ""
  /-- What it complains about. -/
  complained : String := ""
  /-- Where requests are to be served from now on. -/
  serving : Option Endpoint := none
deriving DecidableEq

/-- The ending with a line about what was done. -/
def Ending.said (line : String) : Ending :=
  { printed := line ++ "\n" }

/-- The ending with a line about what is wrong. -/
def Ending.refused (complaint : String) : Ending :=
  { exitCode := 1, complained := "Error: " ++ complaint ++ "\n" }

/-- The ending where the words make no command. -/
def Ending.misused (error : UsageError) : Ending :=
  { exitCode := 2, complained := "Error: " ++ error.message ++ "\n" }

/-- Ends with what a user reads about a failure, unless it is none of the user's business. -/
def orRefused (work : Call Ending) : Call Ending :=
  tryCatch work fun failure =>
    match failure.family with
    | .internal => throw failure
    | _ => return .refused (Wording.failure failure)

/-- The line about a new row. -/
def createdLine (what name : String) (id : Int) : String :=
  "Created " ++ what ++ " '" ++ name ++ "' (ID: " ++ digits id ++ ")"

/-- A text with spaces behind it up to a width. -/
def padded (width : Nat) (text : String) : String :=
  text.pushn ' ' (width - text.length)

/-- A number with spaces in front of it up to a width. -/
def paddedNumber (width : Nat) (number : Int) : String :=
  "".pushn ' ' (width - (digits number).length) ++ digits number

/-- The number that begins the line of a row. -/
def idCell (id : Int) : String :=
  "ID: " ++ paddedNumber 3 id

/-- The line of an account. -/
def accountLine (account : Account) : String :=
  " | ".intercalate
    [idCell account.id, padded 20 account.name, padded 8 account.kind.name,
      inReais account.balance.toDecimal]

/-- The line of a category. -/
def categoryLine (category : Category) : String :=
  " | ".intercalate [idCell category.id, padded 25 category.name, category.kind.name]

/-- Creates an account. -/
def createAccount (owner name : String) (kind : AccountKind) (balance : String) :
    Call Ending := do
  match readAmount balance.toList with
  | .error error => return .refused ("Invalid balance: " ++ error.message)
  | .ok opening => orRefused do
      return .said (createdLine "account" name (← Account.create owner name kind opening))

/-- Lists the accounts in use, the newest first. -/
def listAccounts (owner : String) : Call Ending := do
  match ← Account.list owner none with
  | [] => return .said "No accounts found."
  | accounts =>
      return .said ("\n".intercalate
        (["", "Accounts:", "".pushn '-' 60] ++ accounts.map accountLine))

/-- Creates a category. -/
def createCategory (owner name : String) (kind : CategoryKind) : Call Ending :=
  orRefused do
    return .said (createdLine "category" name (← Category.create owner name kind))

/-- Lists the categories. -/
def listCategories (owner : String) : Call Ending := do
  match ← Category.list owner with
  | [] => return .said "No categories found."
  | categories => return .said ("\n".intercalate (categories.map categoryLine))

/-- Creates a card. -/
def createCard (owner name brand limit : String) (closingDay dueDay : Int) : Call Ending := do
  match readAmount limit.toList with
  | .error error => return .refused ("Invalid limit: " ++ error.message)
  | .ok amount => orRefused do
      let id ← Card.create owner name brand amount closingDay dueDay
      return .said (createdLine "card" name id)

/-- Binds a chat to an owner. -/
def bindChat (owner chat : String) : Call Ending :=
  orRefused do
    let id ← Binding.assign owner chat
    return .said ("Bound chat " ++ chat ++ " to owner '" ++ owner ++ "' (ID: " ++ digits id ++ ")")

/-- Answers a message as if it came from its chat. -/
def sendMessage (text chat : String) : Call Ending := do
  let reply ← Chat.handle ⟨some chat, some text⟩ Chat.defaultRules
  return { Ending.said reply.text with exitCode := if reply.status = 200 then 0 else 1 }

/-- Goes on with what a date in free form names; an empty text names none. -/
def withDate (text : Option String) (andThen : Option Date → Call Ending) : Call Ending := do
  match text.filter (· ≠ "") with
  | none => andThen none
  | some text =>
      match Date.Phrase.read (← get).today text.toList with
      | .ok date => andThen (some date)
      | .error (.unreadable phrase error) =>
          return .refused ("Invalid date format: " ++ Date.Phrase.unreadableMessage phrase error)
      | .error .outsideCalendar => throw (.calendar .outsideCalendar)
      | .error (.arithmetic error) => throw (.arithmetic error)
      | .error .yearBeforeZero => throw .yearBeforeZero

/-- Goes on with the account that a text means. -/
def withAccount (owner text : String) (andThen : Int → Call Ending) : Call Ending := do
  let found ← tryCatch (Except.ok <$> Account.resolve owner text) fun failure =>
    match failure with
    | .unknownAccountId _ | .unknownAccountName _ => return .error failure
    | _ => throw failure
  match found with
  | .ok id => andThen id
  | .error failure => return .refused failure.message

/-- Goes on with the category that a text names, in any letter case; an empty text names none. -/
def withCategory (categories : List Category) (text : Option String)
    (andThen : Option Category → Call Ending) : Call Ending :=
  match text.filter (· ≠ "") with
  | none => andThen none
  | some text =>
      let same := fun category : Category => lower category.name.toList = lower text.toList
      match categories.find? same with
      | some category => andThen (some category)
      | none => return .refused ("Category '" ++ text ++ "' not found")

/-- Posts a draft. -/
def postDraft (context : OwnerContext) (draft : Draft) : Call Ending :=
  orRefused do
    return .said (← draft.post context)

/-- Adds a transfer. -/
def addTransfer (context : OwnerContext) (words : EntryWords) (amount : Decimal) :
    Call Ending := do
  match words.account, words.target with
  | some source, some target =>
      if 1 < words.installments then
        return .refused "Transfers cannot be split into installments"
      withAccount context.owner source fun source =>
        withAccount context.owner target fun target =>
          postDraft context (.transfer ⟨source, target, amount, words.description⟩)
  | _, _ => return .refused "Transfers need both --account and --to-account"

/-- Goes on with the account that words name, if they do. -/
def withAccount? (owner : String) (text : Option String) (andThen : Option Int → Call Ending) :
    Call Ending :=
  match text with
  | some text => withAccount owner text fun id => andThen (some id)
  | none => andThen none

/-- Adds an entry or a series. -/
def addSingle (context : OwnerContext) (words : EntryWords) (amount : Decimal)
    (date : Option Date) : Call Ending :=
  withAccount? context.owner words.account fun account =>
    withCategory context.categories words.category fun category =>
      postDraft context (.entry {
        amount := amount
        description := words.description
        category := category
        kind := words.kind
        date := date
        installments := words.installments
        account := account
        card := words.card })

/-- Adds an entry, a series or a transfer. -/
def addEntry (owner : String) (words : EntryWords) : Call Ending := do
  match readAmount words.amount.toList with
  | .error error => return .refused ("Invalid amount format: " ++ error.message)
  | .ok amount =>
      withDate words.date fun date => do
        let accounts ← Account.list owner none
        let categories ← Category.list owner
        let context : OwnerContext := ⟨owner, accounts, categories⟩
        if words.kind = .transfer then addTransfer context words amount
        else addSingle context words amount date

/-- The levels of logging. -/
def logLevels : List String :=
  ["CRITICAL", "FATAL", "ERROR", "WARN", "WARNING", "INFO", "DEBUG", "NOTSET"]

/-- Begins to serve requests. -/
def serve (environment : Environment) (site : Site) (databaseUrl : Option String) (host : String)
    (socket : Int) : Call Ending := do
  match Settings.ofEnvironment environment { databaseUrl := databaseUrl } site with
  | .error error => return .refused error.message
  | .ok settings =>
      if !logLevels.contains settings.logLevel then
        throw (.unknownLogLevel settings.logLevel)
      let level := String.ofList (lower settings.logLevel.toList)
      return { serving := some ⟨host, socket, level⟩ }

/-- Goes on with the owner that a command acts for. -/
def withOwner (owner : Option String) (andThen : String → Call Ending) : Call Ending :=
  match owner.filter (· ≠ "") with
  | some owner => andThen owner
  | none => return .refused "--owner (or FINCHAT_OWNER) is required for this command"

/-- Runs a command. -/
def Invocation.run (environment : Environment) (site : Site) (invocation : Invocation) :
    Call Ending :=
  match invocation.command with
  | .createAccount name kind balance =>
      withOwner invocation.owner fun owner => createAccount owner name kind balance
  | .listAccounts => withOwner invocation.owner listAccounts
  | .createCategory name kind =>
      withOwner invocation.owner fun owner => createCategory owner name kind
  | .listCategories => withOwner invocation.owner listCategories
  | .createCard name brand limit closingDay dueDay =>
      withOwner invocation.owner fun owner =>
        createCard owner name brand limit closingDay dueDay
  | .bindChat chat => withOwner invocation.owner fun owner => bindChat owner chat
  | .sendMessage text chat => sendMessage text chat
  | .addEntry words => withOwner invocation.owner fun owner => addEntry owner words
  | .serve host socket => serve environment site invocation.databaseUrl host socket

/-- The ending with all it shows in plain text. -/
def Ending.plain (ending : Ending) : Ending :=
  { ending with
    printed := Plain.ofText ending.printed
    complained := Plain.ofText ending.complained }

/-- Runs the command that words ask for.  Asking for help ends without doing anything. -/
def run (environment : Environment) (site : Site) (words : List String) : Call Ending :=
  match Invocation.ofWords environment words with
  | .ok invocation => Ending.plain <$> invocation.run environment site
  | .error .help => return {}
  | .error (.misuse error) => return (Ending.misused error).plain

end Cashbook.CommandLine
