import Cashbook.CommandLine.Form
import Cashbook.Ledger.Entities
import Cashbook.Service.Settings

/-!
# Commands

What the command line can be asked for, and how words ask for it.  The owner that a command acts
for is named before the command or in the environment.
-/

namespace Cashbook.CommandLine

/-- An entry or transfer that is asked for, as far as the words alone tell. -/
structure EntryWords where
  /-- The amount. -/
  amount : String
  /-- What it is for. -/
  description : String
  /-- What it does with money. -/
  kind : EntryKind
  /-- The account. -/
  account : Option String
  /-- The account that a transfer goes to. -/
  target : Option String
  /-- The category. -/
  category : Option String
  /-- The card to charge. -/
  card : Option Int
  /-- The day. -/
  date : Option String
  /-- The number of installments. -/
  installments : Int
deriving DecidableEq

/-- A command. -/
inductive Command where
  | createAccount (name : String) (kind : AccountKind) (balance : String)
  | listAccounts
  | createCategory (name : String) (kind : CategoryKind)
  | listCategories
  | createCard (name brand limit : String) (closingDay dueDay : Int)
  | bindChat (chat : String)
  | sendMessage (text chat : String)
  | addEntry (words : EntryWords)
  | serve (host : String) (socket : Int)
deriving DecidableEq

namespace Command

open Form

/-- The form of a new account. -/
def accountForm : Form Command :=
  createAccount <$> argument "ACCOUNT_NAME"
    <*> choice "--type" AccountKind.all AccountKind.name .checking
    <*> optionOr "--balance" "0"

/-- The form of a new category. -/
def categoryForm : Form Command :=
  createCategory <$> argument "NAME"
    <*> choice "--type" CategoryKind.all CategoryKind.name .expense

/-- The days of a month. -/
def monthDays : Range :=
  ⟨1, some 31⟩

/-- The form of a new card. -/
def cardForm : Form Command :=
  createCard <$> argument "NAME"
    <*> required "--brand"
    <*> optionOr "--limit" "0"
    <*> wholeIn "--closing-day" monthDays 1
    <*> wholeIn "--due-day" monthDays 10

/-- The form of a binding. -/
def bindForm : Form Command :=
  bindChat <$> argument "CHAT_ID"

/-- The form of a message. -/
def messageForm : Form Command :=
  sendMessage <$> argument "TEXT" <*> required "--chat-id"

/-- The form of an entry or a transfer. -/
def entryForm : Form Command :=
  addEntry <$> (EntryWords.mk <$> required "--amount"
    <*> required "--description"
    <*> choice "--type" EntryKind.all EntryKind.name .expense
    <*> option "--account"
    <*> option "--to-account"
    <*> option "--category"
    <*> whole "--card"
    <*> option "--date"
    <*> wholeIn "--installments" ⟨1, none⟩ 1)

/-- The form of serving requests. -/
def serveForm : Form Command :=
  serve <$> optionOr "--host" "127.0.0.1" <*> (fun socket => socket.getD 8000) <$> whole "--port"

/-- The commands about accounts. -/
def accountCommands : Named (List String → Except Interruption Command) :=
  [("create", accountForm.read), ("list", (pure listAccounts : Form Command).read)]

/-- The commands about categories. -/
def categoryCommands : Named (List String → Except Interruption Command) :=
  [("create", categoryForm.read), ("list", (pure listCategories : Form Command).read)]

/-- The commands about cards. -/
def cardCommands : Named (List String → Except Interruption Command) :=
  [("create", cardForm.read)]

/-- All commands. -/
def commands : Named (List String → Except Interruption Command) :=
  [("account", readGroup accountCommands), ("category", readGroup categoryCommands),
    ("card", readGroup cardCommands), ("bind", bindForm.read), ("message", messageForm.read),
    ("add", entryForm.read), ("serve", serveForm.read)]

end Command

/-- A command with what holds for all of them. -/
structure Invocation where
  /-- The owner that the command acts for. -/
  owner : Option String
  /-- Where the ledger is kept. -/
  databaseUrl : Option String
  /-- The command. -/
  command : Command
deriving DecidableEq

namespace Invocation

/-- The variable of the owner. -/
def ownerVariable : String :=
  "FINCHAT_OWNER"

/-- The value of an option, else that of a variable that is not empty. -/
def valueOr (given : Given) (option : String) (environment : Environment) (name : String) :
    Option String :=
  (given.value? option).or ((environment.get? name).filter (· ≠ ""))

/-- What words ask for in an environment. -/
def ofWords (environment : Environment) (words : List String) :
    Except Interruption Invocation := do
  if words.isEmpty then
    throw .help
  let given ← (Given.ofWords ["--database-url", "--owner"] false words).mapError .misuse
  if given.help then
    throw .help
  let command ← readCommand Command.commands given.arguments
  return {
    owner := valueOr given "--owner" environment ownerVariable
    databaseUrl := valueOr given "--database-url" environment Environment.databaseUrl
    command := command }

end Invocation

end Cashbook.CommandLine
