import Cashbook.Ledger.Entities
import Cashbook.Ledger.Failure
import Cashbook.Money.Amount

/-!
# What users read

The texts of replies: confirmations, balances, the monthly report, usage and failures.
-/

namespace Cashbook.Wording

open Money

/-- The mark of a confirmation. -/
def confirmationMark : String :=
  "✅"

/-- The line of an entry without a category. -/
def uncategorized : String :=
  "⚠️ Sem categoria"

/-- The reply where there is no account to show. -/
def noAccounts : String :=
  "❌ Nenhuma conta encontrada."

/-- The reply where the ledger could not be written. -/
def saveFailed : String :=
  "Erro ao salvar transação. Tente novamente."

/-- The reply where a series could not be written. -/
def installmentsFailed : String :=
  "Erro ao salvar as parcelas. Confira suas transações antes de tentar novamente."

/-- The reply to a message that took too long. -/
def tryAgain : String :=
  "O processamento demorou demais. Tente novamente em instantes."

/-- The reply where something went wrong that the user cannot mend. -/
def internalError : String :=
  "Internal error"

/-- The reply to a message without text. -/
def noMessageText : String :=
  "No message text"

/-- The reply to a chat without an owner. -/
def notConfigured : String :=
  "User not configured"

/-- The lines of the list of commands. -/
def helpLines : List String :=
  ["🤖 *Comandos Disponíveis:*", "",
    "/add [valor] [descrição] [categoria]", "📝 Adicionar despesa",
    "Ex: /add 50.00 almoço alimentação", "",
    "/balance", "💰 Ver saldo das contas", "",
    "/report", "📊 Relatório mensal", "",
    "/help", "❓ Esta ajuda", "",
    "Você também pode enviar mensagens como:",
    "\"Gastei 30 reais no supermercado\"", "\"Comprei café por 5 reais\""]

/-- The list of commands. -/
def help : String :=
  "\n".intercalate helpLines

/-- What a kind of entry is called. -/
def label : EntryKind → String
  | .expense => "Despesa"
  | .income => "Receita"
  | .transfer => "Transação"

/-- A whole number in decimal digits. -/
def number (value : Int) : String :=
  String.ofList (Integer.toText value)

/-- The first line of a confirmation. -/
def headline (kind : EntryKind) (amount : Decimal) (installments : Int) : String :=
  if 1 < installments then
    confirmationMark ++ " " ++ label kind ++ " parcelada: " ++ number installments ++ "x de "
      ++ inReais amount
  else
    confirmationMark ++ " " ++ label kind ++ " registrada: " ++ inReais amount

/-- The confirmation of an entry or a series. -/
def entryConfirmation (kind : EntryKind) (amount : Decimal) (description : String)
    (category : Option String) (account : String) (installments : Int) : String :=
  let categoryLine :=
    match category with
    | some name => "🏷️ " ++ name
    | none => uncategorized
  "\n".intercalate
    [headline kind amount installments, "📝 " ++ description, categoryLine, "🏦 " ++ account]

/-- The confirmation of a transfer. -/
def transferConfirmation (amount : Decimal) (source target : String) : String :=
  confirmationMark ++ " Transferência realizada: " ++ inReais amount ++ "\n🏦 " ++ source ++ " → "
    ++ target

/-- The balances of accounts, given by name, and their sum. -/
def balanceSummary (accounts : List (String × Decimal)) :
    Except Decimal.ArithmeticError String := do
  if accounts.isEmpty then
    return noAccounts
  let total ← Decimal.sum (accounts.map Prod.snd)
  let lines := accounts.map fun account => "🏦 " ++ account.1 ++ ": " ++ inReais account.2
  return "\n".intercalate
    (["💰 *Saldo das Contas:*", ""] ++ lines ++ ["", "💎 *Total:* " ++ inReais total])

/-- Income, expenses and what remains. -/
def monthlyReport (income expenses : Decimal) : Except Decimal.ArithmeticError String := do
  let net ← income.sub expenses
  let marker := if ← net.isNotNegative then confirmationMark else "⚠️"
  return "📊 *Relatório do Mês*\n\n💚 Receitas: " ++ inReais income ++ "\n❌ Despesas: "
    ++ inReais expenses ++ "\n" ++ marker ++ " Saldo: " ++ inReais net

/-- What a user reads about a failure: only refusals are explained. -/
def failureText (family : FailureFamily) (message : String) : String :=
  match family with
  | .installments => installmentsFailed
  | .storage => saveFailed
  | .refusal => message
  | .internal => internalError

/-- What a user reads about a failure. -/
def failure (failure : Failure) : String :=
  failureText failure.family failure.message

end Cashbook.Wording
