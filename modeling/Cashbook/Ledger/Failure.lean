import Cashbook.Date
import Cashbook.Integer
import Cashbook.Json
import Cashbook.Decimal.Arithmetic
import Cashbook.Text.Quoted

/-!
# Why a service call fails

Refusals tell the user what to change.  A failed write says that the ledger is as before.  The
other failures come from numbers that do not fit or from a defect, and are never explained to the
user.
-/

namespace Cashbook

/-- Why the ledger cannot be written. -/
inductive WriteCause where
  /-- Storage fails inside a unit of work. -/
  | insideUnit
  /-- Storage fails before a unit of work begins. -/
  | onEntry
  /-- An amount that is no number is to be stored. -/
  | notNumber (column : String)
  /-- An amount is no number and refuses to be turned into one of 64 bits. -/
  | signaling
deriving DecidableEq

/-- The wording of a cause. -/
def WriteCause.message : WriteCause → String
  | insideUnit => "simulated failure"
  | onEntry => "simulated"
  | notNumber column => "(sqlite3.IntegrityError) NOT NULL constraint failed: " ++ column
  | signaling => "(builtins.ValueError) cannot convert signaling NaN to float"

/-- Why a service call fails. -/
inductive Failure where
  | amountNotPositive
  | amountBelowCent
  | installmentCount
  | accountMissing (id : Int)
  | cardMissing (id : Int)
  | noAccount
  | sameAccount
  | accountsNotOwned
  | insufficientFunds (account : Option String)
  | writeFailed (cause : WriteCause)
  | installmentsFailed (rows : Nat) (owner : String)
  /-- No account of the owner has this number. -/
  | unknownAccountId (id : Int)
  /-- No active account of the owner has this name. -/
  | unknownAccountName (name : String)
  /-- A number does not fit into 64 bits. -/
  | idTooLarge
  /-- The level of logging is unknown. -/
  | unknownLogLevel (level : String)
  | calendar (error : CalendarError)
  | arithmetic (error : Decimal.ArithmeticError)
  /-- A date phrase means a year before the year zero. -/
  | yearBeforeZero
  /-- A text of JSON nests arrays and objects deeper than they are read. -/
  | nestedTooDeep (container : Json.Container)
  /-- A text with half a surrogate pair is to be stored or looked up. -/
  | tornText
  /-- Something that should not happen. -/
  | crash
deriving DecidableEq

/-- What a failure means for the user. -/
inductive FailureFamily where
  /-- The user can mend it. -/
  | refusal
  /-- The ledger could not be written. -/
  | storage
  /-- A series of installments could not be written. -/
  | installments
  /-- Nothing the user should hear of. -/
  | internal
deriving DecidableEq

namespace Failure

/-- What a failure means for the user. -/
def family : Failure → FailureFamily
  | amountNotPositive | amountBelowCent | installmentCount | accountMissing _ | cardMissing _
  | noAccount | sameAccount | accountsNotOwned | insufficientFunds _ => .refusal
  | writeFailed _ => .storage
  | installmentsFailed .. => .installments
  | unknownAccountId _ | unknownAccountName _ | idTooLarge | unknownLogLevel _ | calendar _
  | arithmetic _ | yearBeforeZero | nestedTooDeep _ | tornText | crash => .internal

/-- A number in decimal digits. -/
def numberText (number : Int) : String :=
  String.ofList (Integer.toText number)

/-- The wording of an arithmetic error. -/
def arithmeticMessage : Decimal.ArithmeticError → String
  | .invalidOperation => "[<class 'decimal.InvalidOperation'>]"
  | .overflow => "[<class 'decimal.Overflow'>]"
  | .divisionImpossible => "[<class 'decimal.DivisionImpossible'>]"

/-- The wording of a failure. -/
def message : Failure → String
  | amountNotPositive => "O valor deve ser maior que zero"
  | amountBelowCent => "O valor deve ter no máximo duas casas decimais"
  | installmentCount => "Installment count must be at least 1"
  | accountMissing id => "Account " ++ numberText id ++ " not found"
  | cardMissing id => "Card " ++ numberText id ++ " not found"
  | noAccount => "Nenhuma conta encontrada. Adicione uma conta primeiro no app."
  | sameAccount => "Conta de origem e destino devem ser diferentes"
  | accountsNotOwned => "Contas não encontradas ou não pertencem ao usuário"
  | insufficientFunds none => "Saldo insuficiente na conta de origem"
  | insufficientFunds (some account) =>
      if account = "" then "Saldo insuficiente na conta de origem"
      else "Saldo insuficiente na conta de origem (" ++ account ++ ")"
  | writeFailed cause => "Ledger write failed: " ++ cause.message
  | installmentsFailed rows owner =>
      "Installment batch of " ++ numberText rows ++ " rows failed for owner " ++ owner
  | unknownAccountId id => "Account ID " ++ numberText id ++ " not found"
  | unknownAccountName name => "Account '" ++ name ++ "' not found"
  | idTooLarge => "Python int too large to convert to SQLite INTEGER"
  | unknownLogLevel level => "Unknown level: " ++ String.ofList (Text.quoted level.toList)
  | calendar error => error.message
  | arithmetic error => arithmeticMessage error
  | yearBeforeZero => ""
  | nestedTooDeep container =>
      "maximum recursion depth exceeded while decoding a JSON " ++ container.name
        ++ " from a unicode string"
  | tornText => "surrogates not allowed"
  | crash => "boom"

end Failure

end Cashbook
