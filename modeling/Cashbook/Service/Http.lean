import Cashbook.Json
import Cashbook.Named

/-!
# Requests and responses

What the service reads of a request and writes into a response.
-/

namespace Cashbook.Http

/-- A request. -/
structure Request where
  /-- The method, in capital letters. -/
  method : String
  /-- The path. -/
  path : String
  /-- The bytes of the headers, under names in small letters. -/
  headers : Named (List UInt8) := []
  /-- The bytes of the body. -/
  body : List UInt8 := []

/-- The text of a header, in which each byte stands for the character of its number. -/
def Request.header? (request : Request) (name : String) : Option String :=
  (request.headers.get? name).map fun bytes =>
    String.ofList (bytes.map fun byte => Char.ofNat byte.toNat)

/-- What a response carries. -/
inductive Content where
  | empty
  | text (value : String)
  | json (value : Json)

/-- The name of a kind of content. -/
def Content.kind : Content → String
  | empty => ""
  | text _ => "text/plain"
  | json _ => "application/json"

/-- A response. -/
structure Response where
  /-- The status. -/
  status : Nat
  /-- What it carries. -/
  content : Content
  /-- The headers besides those that describe the content. -/
  headers : Named String

/-- The headers that let pages from anywhere call the service. -/
def sharingHeaders : Named String :=
  [("Access-Control-Allow-Origin", "*"),
    ("Access-Control-Allow-Headers", "authorization, x-client-info, apikey, content-type")]

/-- A response that pages from anywhere may read. -/
def Response.shared (status : Nat) (content : Content) : Response :=
  ⟨status, content, sharingHeaders⟩

/-- A response that tells of an error. -/
def Response.error (status : Nat) (message : String) : Response :=
  .shared status (.json (.object [("error", .text message)]))

end Cashbook.Http
