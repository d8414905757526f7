import Cashbook.Json.Encoding
import Cashbook.Service.Bearer
import Cashbook.Service.Envelope
import Cashbook.Service.Http
import Cashbook.Service.ApiTokens
import Cashbook.Service.TransferBody

/-!
# The endpoints of the service

Messages come to one path and are answered in the response; transfers are asked for at another by
the bearer of an owner's token.  Both open the ledger only once a request is known to need it.
When opening takes too long the answer says so, and the work is done all the same.

How many arrays and objects may stand inside each other in a body depends on where the service is
called from, and so it is given from outside.
-/

namespace Cashbook.Http

open Call

/-- The answer to a body or parameters that cannot be read. -/
def invalidParameters : String :=
  "Parâmetros inválidos"

/-- The answer to a request without a token. -/
def tokenRequired : String :=
  "Token de autorização necessário"

/-- The answer to a token of nobody. -/
def tokenUnknown : String :=
  "Token inválido"

/-- The answer where the ledger could not be written. -/
def transferFailed : String :=
  "Erro ao executar transferência"

/-- The answer where nobody can tell yet what became of a transfer. -/
def transferUnconfirmed : String :=
  "Não foi possível confirmar a transferência a tempo. Confira o saldo antes de tentar novamente"

/-- The answer where something went wrong that the user cannot mend. -/
def serverError : String :=
  "Erro interno do servidor"

/-- The answer to a transfer. -/
def transferDone : String :=
  "Transferência realizada com sucesso"

/-- Does work, whatever comes of it. -/
def abandoned {Answer : Type} (work : Call Answer) : Call Unit :=
  tryCatch (discard work) fun _ => return ()

/-- Opens the ledger and does work within the deadline of a request; there is no answer when the
deadline passes first, but the work is done. -/
def withinDeadline {Answer : Type} (work : Call Answer) : Call (Option Answer) := do
  failAt .opening .crash
  if (← visit .slowOpening).isSome then
    abandoned work
    return none
  else
    return some (← work)

/-- The value that the body of a request writes, if it writes one.  A body that nests deeper than
there is room for fails. -/
def bodyOf (room : Nat) (request : Request) : Call (Option Json) :=
  match Json.readBytes room request.body with
  | .ok value => return some value
  | .error .malformed => return none
  | .error (.tooDeep container) => throw (.nestedTooDeep container)

/-- The response to a message. -/
def replyResponse (reply : Chat.Reply) : Response :=
  if reply.status = 200 then .shared 200 (.json (.object [("text", .text reply.text)]))
  else .shared reply.status (.text reply.text)

/-- The reply to a message, whatever happens. -/
def replyTo (message : Chat.LooseMessage) : Call Chat.Reply :=
  tryCatch
    (do
      let reply ← withinDeadline (Chat.handleLoose message Chat.defaultRules)
      return reply.getD { text := Wording.tryAgain })
    fun _ => return { text := Wording.internalError, status := 500 }

/-- Answers a message. -/
def receiveMessage (room : Nat) (request : Request) : Call Response := do
  let update := (← bodyOf room request).getD .null
  return replyResponse (← replyTo (Chat.LooseMessage.ofUpdate update))

/-- The response to a transfer that failed. -/
def failureResponse (failure : Failure) : Response :=
  match failure.family with
  | .storage | .installments => .error 500 transferFailed
  | .refusal => .error (if failure = .accountsNotOwned then 403 else 400) failure.message
  | .internal => .error 500 serverError

/-- The response to a transfer that was done, with the number of its record. -/
def transferResponse (id : Int) : Response :=
  .shared 200 (.json (.object
    [("success", .bool true), ("message", .text transferDone), ("transfer_id", .whole id)]))

/-- Moves the money that a body asks for and gives the number of the record. -/
def moveFor (owner : String) (body : TransferBody) : Call Int :=
  match body.description.mapM LooseText.whole? with
  | some description =>
      Movement.request owner body.source body.target (some body.amount) description
  | none => Movement.requestTorn owner body.source body.target (some body.amount)

/-- Answers what becomes of the money that a body asks for. -/
def transferFor (owner : String) (body : TransferBody) : Call Response :=
  tryCatch
    (do
      match ← withinDeadline (moveFor owner body) with
      | some id => return transferResponse id
      | none => return .error 504 transferUnconfirmed)
    fun failure => return failureResponse failure

/-- The owner that a request acts for, or the message that refuses it. -/
def authenticate (tokens : ApiTokens) (request : Request) : Except String String :=
  match Bearer.token? (request.header? "authorization") with
  | none => .error tokenRequired
  | some token =>
      match tokens.owner? token with
      | none => .error tokenUnknown
      | some owner => .ok owner

/-- Answers a request for a transfer. -/
def requestTransfer (room : Nat) (tokens : ApiTokens) (request : Request) : Call Response := do
  match (← bodyOf room request).bind TransferBody.ofJson? with
  | none => return .error 400 invalidParameters
  | some body =>
      if ← ofArithmetic body.amount.isNotPositive then
        return .error 400 Failure.amountNotPositive.message
      if body.source = body.target then
        return .error 400 Failure.sameAccount.message
      match authenticate tokens request with
      | .error message => return .error 401 message
      | .ok owner => transferFor owner body

/-- The path of messages. -/
def messagePath : String :=
  "/telegram-webhook"

/-- The path of transfers. -/
def transferPath : String :=
  "/transfer"

/-- The response to a request that nothing answers. -/
def unanswered (status : Nat) (detail : String) : Response :=
  ⟨status, .json (.object [("detail", .text detail)]), []⟩

/-- Answers a request whose body may nest as deep as there is room for. -/
def answer (room : Nat) (tokens : ApiTokens) (request : Request) : Call Response := do
  if request.path ≠ messagePath ∧ request.path ≠ transferPath then
    return unanswered 404 "Not Found"
  else if request.method = "OPTIONS" then
    return .shared 200 .empty
  else if request.method ≠ "POST" then
    return unanswered 405 "Method Not Allowed"
  else if request.path = messagePath then
    receiveMessage room request
  else
    requestTransfer room tokens request

end Cashbook.Http
