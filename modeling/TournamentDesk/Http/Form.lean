import TournamentDesk.Http.Endpoint
import TournamentDesk.Http.MediaType
import TournamentDesk.Json.Record
import TournamentDesk.Swiss.Record
import TournamentDesk.Swiss.Verb
import TournamentDesk.Text.Blank

/-!
# What requests ask for

A request to an endpoint is read as an action of the service. The body must be JSON of the shape that
the endpoint takes, and no longer than a limit. Endpoints that take no body pass it over, however long it
is.
-/

namespace TournamentDesk
namespace Http

open Json (Fault Field Reader)
open Swiss (PlayerId Verb)

/-- What the service can do. -/
inductive Action where
  | health
  | register (name : String)
  | tournament
  | pairings
  | standings
  | dashboard
  | pending
  | accept (name : String)
  | reject (name : String)
  | change (verb : Verb)
deriving DecidableEq, Repr

/-- Why a request cannot be read as an action. -/
inductive Defect where
  | mediaType
  /-- The body is longer than a body may be. -/
  | tooLong
  | body (fault : Fault)
  /-- The body does not read as a request for a pairing. -/
  | pairBody (fault : Fault)
  | blankName
deriving DecidableEq, Repr

def Defect.answer : Defect → Answer
  | .mediaType => ⟨.unsupportedMediaType, .text "The body must be declared as JSON"⟩
  | .tooLong => ⟨.payloadTooLarge, .text "The body is too long"⟩
  | .body .malformed => ⟨.badRequest, .text "The body is not JSON"⟩
  | .body .mismatch => ⟨.unprocessable, .text "The body has the wrong shape"⟩
  | .pairBody fault => .failure .badRequest ("Invalid pair request: " ++ fault.message)
  | .blankName => .failure .badRequest "Name is required"

/-! ## Bodies -/

def readName : Reader String :=
  Json.readRecord [.required "name" Json.readText] fun (name, ()) => name

def readPlayer : Reader PlayerId :=
  Json.readRecord [.required "player_id" Swiss.readId] fun (id, ()) => id

/-- The fields of a result. Counts that are left out are zero. -/
def resultFields : List Field :=
  [.required "player_id" Swiss.readId, .optional "wins" Swiss.readCount 0,
    .optional "losses" Swiss.readCount 0, .optional "draws" Swiss.readCount 0]

def readResult : Reader Verb :=
  Json.readRecord resultFields fun (id, wins, losses, draws, ()) => .record id ⟨wins, losses, draws⟩

/-- Reads whether rematches are allowed. They are not if nothing is said. -/
def readAllowRepair : Reader Bool :=
  Json.readRecord [.optional "allow_repair" Json.readBool false] fun (allowRepair, ()) => allowRepair

/-- Whether the body of a request is declared to be JSON. -/
def Request.declaresJson (r : Request) : Bool :=
  ((r.headerText? "content-type").bind MediaType.parse?).any MediaType.isJson

/-- How many octets a body may have that is read. -/
def maxBodySize : Nat :=
  2097152

/-- The octets of the body of a request, unless there are too many. -/
def Request.octets (r : Request) : Except Defect ByteArray :=
  if r.body.size ≤ maxBodySize then .ok r.body else .error .tooLong

/-- Reads the body of a request. Whether it is declared as JSON is asked before how long it is. -/
def Request.readBody {α : Type} (r : Request) (read : Reader α) : Except Defect α :=
  if r.declaresJson then do
    let octets ← r.octets
    (Json.readBytes read octets).mapError .body
  else .error .mediaType

/-- The trimmed name in the body of a request, which must not be blank. -/
def Request.readTrimmedName (r : Request) : Except Defect String :=
  match r.readBody readName with
  | .error d => .error d
  | .ok name => if Text.isBlank name then .error .blankName else .ok (Text.trim name)

/-- Whether the body of a request allows rematches. It need not be declared as anything, and may be
empty. -/
def Request.allowsRepair (r : Request) : Except Defect Bool := do
  let octets ← r.octets
  if octets.isEmpty then .ok false else (Json.readBytes readAllowRepair octets).mapError .pairBody

/-- What a request to an endpoint asks for. -/
def Endpoint.action (r : Request) : Endpoint → Except Defect Action
  | .health => .ok .health
  | .register => (r.readBody readName).map .register
  | .tournament => .ok .tournament
  | .pairings => .ok .pairings
  | .standings => .ok .standings
  | .dashboard => .ok .dashboard
  | .pending => .ok .pending
  | .accept => r.readTrimmedName.map .accept
  | .reject => r.readTrimmedName.map .reject
  | .start => .ok (.change .start)
  | .pair => r.allowsRepair.map fun allowRepair => .change (.pair allowRepair)
  | .nextRound => .ok (.change .nextRound)
  | .results => (r.readBody readResult).map .change
  | .computeStandings => .ok (.change .standings)
  | .removePlayer => (r.readBody readPlayer).map fun id => .change (.remove id)
  | .finish => .ok (.change .finish)

end Http
end TournamentDesk
