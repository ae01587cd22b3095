import TournamentDesk.Http.Form
import TournamentDesk.Office.Decisions
import TournamentDesk.Office.Rounds
import TournamentDesk.Office.View

/-!
# The service

The service answers requests about one office, one after the other. Endpoints of the organizer are
open to requests that bear the token; others learn there that they may not ask, and nothing else.

Every answer bears an identifier for the request: the one that the request brings, if it is well
formed, or a fresh one. Only requests to say what may be asked are answered without looking at
anything, for all paths alike. Other header fields of answers are left out.
-/

namespace TournamentDesk
namespace Http

open Json (Value)
open Office (Problem)
open Storage (Trouble)
open Swiss (Draw Verb)
open Time (Instant)

def version : String :=
  "0.1.0"

/-- A service at work. -/
structure Service where
  office : Office
  token : String

/-- What a request meets. -/
structure Circumstances where
  /-- How attempts on the records go. -/
  trouble : Trouble
  /-- How the order of a first round is drawn. -/
  draw : Draw
  now : Instant
  /-- The identifier for a request that brings none. -/
  freshId : String

/-- A response: an answer that may bear the identifier of its request. -/
structure Response where
  requestId : Option String
  answer : Answer

/-- How a request went, and the office after it. -/
structure Served where
  answer : Answer
  office : Office

/-! ## Identifiers -/

/-- The longest identifier that is taken over from a request. -/
def maxIdLength : Nat :=
  64

def isIdChar (c : Char) : Bool :=
  c.isAlphanum || c = '-' || c = '_'

def isWellFormedId (id : List Char) : Bool :=
  !id.isEmpty && id.length ≤ maxIdLength && id.all isIdChar

/-- The identifier for a request. -/
def Request.id (r : Request) (fresh : String) : String :=
  ((r.headerText? "x-request-id").filter isWellFormedId).elim fresh String.ofList

/-! ## The token -/

/-- The word in front of a token. -/
def bearerWord : String :=
  "Bearer "

/-- Whether the first field for it in a request is exactly the word and a token. -/
def Request.bears (r : Request) (token : String) : Bool :=
  r.headerText? "authorization" = some (bearerWord ++ token).toList

/-! ## Actions -/

def problemStatus : Problem → Status
  | .registration (.notFound _ _) => .notFound
  | .registration _ => .badRequest
  | .tournament (.unreadable _) => .internalError
  | .tournament _ => .badRequest
  | .storage _ => .internalError
  | .partialCommit _ _ _ => .internalError

def problemAnswer (p : Problem) : Answer :=
  .failure (problemStatus p) p.clientMessage

/-- The value that shows how far the tournament has come. -/
def progress (o : Office) : Value :=
  .object [("status", o.tournament.phase.toJson), ("round", .int o.tournament.round)]

/-- The value that shows that the service runs. -/
def health (o : Office) (now : Instant) : Value :=
  .object
    [("status", .string "healthy"), ("version", .string version),
      ("tournament", o.tournament.phase.toJson), ("round", .int o.tournament.round),
      ("timestamp", .string now.renderOffset)]

/-- The value that shows how far the tournament has come, and how many there are. -/
def summary (o : Office) : Value :=
  .object
    [("status", o.tournament.phase.toJson), ("round", .int o.tournament.round),
      ("player_count", .int o.tournament.playerCount),
      ("pending_count", .int o.queue.pending.length)]

/-- The value that shows the tables of the current round. -/
def roundTables (o : Office) : Value :=
  .object
    [("round", .int o.tournament.round),
      ("pairings", .array ((Office.tableViews o.tournament).map Office.TableView.toJson))]

/-- The answer to someone who has asked to play. -/
def registered (name : String) : Answer :=
  ⟨.created, .json <| .object
    [("name", .string name), ("status", .string Registration.Status.pending.word),
      ("message",
        .string ("Registration for " ++ name ++ " received; waiting for organizer approval"))]⟩

/-- The value that shows an accepted entrant. -/
def accepted (name : String) (id : Swiss.PlayerId) : Value :=
  .object [("name", .string name), ("player_id", .int id)]

/-- The value that shows an entrant who was turned down. -/
def rejected (name : String) : Value :=
  .object [("name", .string name), ("status", .string Registration.Status.rejected.word)]

/-- Shows something of the office, which stays as it is. -/
def Served.shown (o : Office) (v : Value) : Served :=
  ⟨.ok v, o⟩

/-- Answers from what came of an operation. -/
def Served.ofOutcome {α : Type} (out : Office.Outcome α) (done : Office → α → Answer) : Served :=
  match out.result with
  | .error p => ⟨problemAnswer p, out.office⟩
  | .ok a => ⟨done out.office a, out.office⟩

/-- Does what is asked for. -/
def act (o : Office) (c : Circumstances) : Action → Served
  | .health => .shown o (health o c.now)
  | .register name => .ofOutcome (o.submit c.trouble c.now name) fun _ _ => registered name
  | .tournament => .shown o (summary o)
  | .pairings => .shown o (roundTables o)
  | .standings => .shown o (.array (o.tournament.standings.map Swiss.Standing.toJson))
  | .dashboard => .shown o o.snapshot.toJson
  | .pending => .shown o (.array (o.queue.pending.map Registration.Entrant.toJson))
  | .accept name =>
    .ofOutcome (o.accept c.trouble name) fun o id =>
      .ok (accepted ((o.tournament.playerName id).getD name) id)
  | .reject name => .ofOutcome (o.reject c.trouble name) fun _ _ => .ok (rejected name)
  | .change verb => .ofOutcome (o.run c.trouble c.draw verb) fun o _ => .ok (progress o)

/-- Answers a request to an endpoint that is open to it. -/
def Endpoint.serve (e : Endpoint) (o : Office) (c : Circumstances) (r : Request) : Served :=
  match e.action r with
  | .error d => ⟨d.answer, o⟩
  | .ok a => act o c a

/-- Whether an endpoint is open to a request. -/
def Endpoint.isOpenTo (e : Endpoint) (token : String) (r : Request) : Bool :=
  match e.audience with
  | .everybody => true
  | .organizer => r.bears token

namespace Service

/-- Answers a request other than one to say what may be asked. -/
def answer (s : Service) (c : Circumstances) (r : Request) : Served :=
  match Endpoint.at? r.resource with
  | none => ⟨.bare .notFound, s.office⟩
  | some e =>
    if !e.isOpenTo s.token r then ⟨.bare .unauthorized, s.office⟩
    else if !e.purpose.allows r.method then ⟨.bare .methodNotAllowed, s.office⟩
    else e.serve s.office c r

/-- Answers a request. -/
def handle (s : Service) (c : Circumstances) (r : Request) : Response × Service :=
  if r.method = .options then (⟨none, .bare .ok⟩, s)
  else
    let served := s.answer c r
    let answer := if r.method = .head then served.answer.withoutBody else served.answer
    (⟨some (r.id c.freshId), answer⟩, { s with office := served.office })

/-- Answers requests one after the other. -/
def handleAll (s : Service) : List (Circumstances × Request) → List Response × Service
  | [] => ([], s)
  | (c, r) :: rest =>
    let (response, s) := s.handle c r
    let (responses, s) := handleAll s rest
    (response :: responses, s)

end Service

end Http
end TournamentDesk
