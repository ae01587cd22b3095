import TournamentDesk.Json.Record
import TournamentDesk.Text.LowerCase
import TournamentDesk.Time.Instant

/-!
# Entrants

Someone who has asked to play: the name as it was given, whether the request has been decided, and
when it was made. A list of entrants is the registration record, which is written with indentation.
-/

namespace TournamentDesk
namespace Registration

open Json (Field Reader Value)
open Time (Instant)

/-- What has become of a request. -/
inductive Status where
  | pending
  | accepted
  | rejected
deriving DecidableEq, Repr

def Status.word : Status → String
  | .pending => "pending"
  | .accepted => "accepted"
  | .rejected => "rejected"

def Status.words : List (String × Status) :=
  [Status.pending, .accepted, .rejected].map fun s => (s.word, s)

/-- Someone who has asked to play. -/
structure Entrant where
  /-- The name as it was given. -/
  name : String
  status : Status
  submittedAt : Option Instant
deriving DecidableEq, Repr

namespace Entrant

/-- Whether nobody has decided yet. -/
def isPending (e : Entrant) : Bool :=
  e.status = .pending

/-- Whether a name is this entrant's, up to case and blanks at the ends. -/
def matchesName (e : Entrant) (name : String) : Bool :=
  Text.sameName e.name name

/-! ## Records -/

/-- The value of an entrant. An unknown time is left out. -/
def toJson (e : Entrant) : Value :=
  .object <|
    [("name", .string e.name), ("status", .string e.status.word)] ++
      (e.submittedAt.map fun t => ("submitted_at", Value.string t.render)).toList

def readInstant : Reader Instant := fun r =>
  match Json.readText r with
  | .error e => .error e
  | .ok s => (Instant.parse? s).elim (.error .mismatch) .ok

def fields : List Field :=
  [.required "name" Json.readText, .required "status" (Json.readWord Status.words),
    .optional "submitted_at" (Json.readOption readInstant) none]

def read : Reader Entrant :=
  Json.readRecord fields fun (name, status, submittedAt, ()) => ⟨name, status, submittedAt⟩

end Entrant

/-- The text of the registration record. -/
def entrantsText (es : List Entrant) : String :=
  (Value.array (es.map Entrant.toJson)).render .indented

/-- The octets of the registration record. -/
def entrantsRecord (es : List Entrant) : ByteArray :=
  (entrantsText es).toUTF8

/-- Reads the registration record. -/
def loadEntrants (record : ByteArray) : Except Json.Fault (List Entrant) :=
  Json.readBytes (Json.readList Entrant.read) record

end Registration
end TournamentDesk
