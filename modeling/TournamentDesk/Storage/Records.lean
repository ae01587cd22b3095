import TournamentDesk.Registration.Entrant
import TournamentDesk.Storage.Fault

/-!
# The two records

The tournament and the registrations are kept in two records that are written independently. A write
replaces a whole record or leaves it as it was.
-/

namespace TournamentDesk
namespace Storage

open Registration (Entrant)

inductive RecordName where
  | tournament
  | queue
deriving DecidableEq, Repr

def RecordName.word : RecordName → String
  | .tournament => "tournament"
  | .queue => "queue"

/-- What is stored: the octets of each record that exists. -/
structure Records where
  tournament : Option ByteArray
  queue : Option ByteArray

namespace Records

def empty : Records :=
  ⟨none, none⟩

/-- The octets of a record. -/
def get (r : Records) : RecordName → Option ByteArray
  | .tournament => r.tournament
  | .queue => r.queue

/-- Replaces a record. -/
def put (r : Records) : RecordName → ByteArray → Records
  | .tournament, octets => { r with tournament := some octets }
  | .queue, octets => { r with queue := some octets }

end Records

/-- How attempts on the two records go: the fault with which one fails, if it does. -/
abbrev Trouble := RecordName → Option Fault

/-- All goes well. -/
def noTrouble : Trouble := fun _ => none

/-- An attempt to write a record. -/
structure Write where
  record : RecordName
  /-- The octets it was to hold. -/
  octets : ByteArray
  /-- Whether it now holds them. -/
  succeeded : Bool

/-- What is stored after an attempt to write. -/
def Records.after (r : Records) (w : Write) : Records :=
  if w.succeeded then r.put w.record w.octets else r

/-- What is stored after attempts to write, in their order. -/
def Records.afterAll (r : Records) (ws : List Write) : Records :=
  ws.foldl Records.after r

/-- Reads a record. -/
def Records.read (r : Records) (trouble : Trouble) (name : RecordName) :
    Except Fault (Option ByteArray) :=
  match trouble name with
  | some fault => .error fault
  | none => .ok (r.get name)

/-- The entrants of a registration record that may be missing. -/
def readEntrants (record : Option ByteArray) : Except Fault (Option (List Entrant)) :=
  match record with
  | none => .ok none
  | some octets =>
    match Registration.loadEntrants octets with
    | .ok es => .ok (some es)
    | .error e => .error (.unreadable e)

end Storage
end TournamentDesk
