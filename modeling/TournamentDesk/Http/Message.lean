import TournamentDesk.Http.Target
import TournamentDesk.Json.Value

/-!
# Requests and answers

A request names a method and a target and carries header fields and octets. An answer is a status and a
body. Header names are compared without regard to case, and of several fields with one name the first
counts.
-/

namespace TournamentDesk
namespace Http

/-- What a request asks to be done with what its path names. -/
inductive Method where
  | get
  | head
  | post
  | options
  | other (name : String)
deriving DecidableEq, Repr

/-- The method with a name. Names are told apart by case. -/
def Method.ofName (name : String) : Method :=
  if name = "GET" then .get
  else if name = "HEAD" then .head
  else if name = "POST" then .post
  else if name = "OPTIONS" then .options
  else .other name

structure Header where
  name : String
  value : ByteArray

/-- Whether an octet is a visible ASCII character, a space or a tab. -/
def isPlainOctet (o : UInt8) : Bool :=
  (0x20 ≤ o && o < 0x7F) || o = 0x9

/-- The value of a header field as text, if it is made of plain octets only. -/
def Header.text? (h : Header) : Option (List Char) :=
  let octets := h.value.data.toList
  if octets.all isPlainOctet then some (octets.map fun o => Char.ofNat o.toNat) else none

/-- A request. -/
structure Request where
  method : Method
  target : String
  headers : List Header
  body : ByteArray

/-- The first header field with a name, which is given in lower case. -/
def Request.header? (r : Request) (name : String) : Option Header :=
  r.headers.find? fun h => h.name.toLower = name

/-- The text of the first header field with a name, which is given in lower case. -/
def Request.headerText? (r : Request) (name : String) : Option (List Char) :=
  (r.header? name).bind Header.text?

/-- The path that is asked for. -/
def Request.resource (r : Request) : String :=
  String.ofList (pathOf r.target.toList)

/-- How a request went. -/
inductive Status where
  | ok
  | created
  | badRequest
  | unauthorized
  | notFound
  | methodNotAllowed
  | payloadTooLarge
  | unsupportedMediaType
  | unprocessable
  | internalError
deriving DecidableEq, Repr

def Status.code : Status → Nat
  | .ok => 200
  | .created => 201
  | .badRequest => 400
  | .unauthorized => 401
  | .notFound => 404
  | .methodNotAllowed => 405
  | .payloadTooLarge => 413
  | .unsupportedMediaType => 415
  | .unprocessable => 422
  | .internalError => 500

/-- What an answer holds. -/
inductive Body where
  | empty
  | json (v : Json.Value)
  | text (s : String)

/-- An answer. -/
structure Answer where
  status : Status
  body : Body

namespace Answer

/-- An answer that says only how the request went. -/
def bare (status : Status) : Answer :=
  ⟨status, .empty⟩

/-- The answer without what it holds. -/
def withoutBody (a : Answer) : Answer :=
  ⟨a.status, .empty⟩

/-- A request that was done, and a JSON value. -/
def ok (v : Json.Value) : Answer :=
  ⟨.ok, .json v⟩

/-- A failure, in words for the client. -/
def failure (status : Status) (message : String) : Answer :=
  ⟨status, .json (.object [("error", .string message)])⟩

end Answer

end Http
end TournamentDesk
