/-!
# What is wrong with a message

A message that asks for an entry but cannot be understood is answered with a hint.
-/

namespace Cashbook.Chat

/-- Why a message is not understood. -/
inductive Complaint where
  /-- The command lacks its parts. -/
  | addUsage
  /-- The amount of a command is not one. -/
  | commandAmount
  /-- A sentence names no amount. -/
  | amountNotFound
  /-- The amount of a sentence is finer than a cent. -/
  | amountBelowCent
deriving DecidableEq

/-- The hint for the user. -/
def Complaint.message : Complaint → String
  | addUsage =>
      "Uso: /add [valor] [descrição] [categoria]\nExemplo: /add 50.00 almoço alimentação"
  | commandAmount => "Valor inválido. Use formato: 50.00"
  | amountNotFound => "Não consegui identificar o valor. Use: /add [valor] [descrição]"
  | amountBelowCent => "Valor inválido. Use no máximo duas casas decimais"

end Cashbook.Chat
