import TournamentDesk.Office.Problem
import TournamentDesk.Storage.Records
import TournamentDesk.Swiss.Record
import TournamentDesk.Swiss.Verb

/-!
# The office

The office holds the tournament and the registration queue in memory and keeps a record of each. Each
operation changes memory, writes the records it affects, and says what it wrote, in order; how each
attempt to write goes is given from outside. The records after some of the writes are what would be
found if the office stopped at that point.
-/

namespace TournamentDesk

open Registration (Entrant Queue)
open Storage (RecordName Records Trouble Write)
open Swiss (PlayerId Tournament)

namespace Office

/-- What becomes of a submission or a rejection that could not be saved. An acceptance that could not
be saved always leaves the entry pending. -/
inductive Policy where
  /-- It is undone in memory too. -/
  | uniform
  /-- It is kept in memory. -/
  | acceptOnly
deriving DecidableEq, Repr

def Policy.name : Policy → String
  | .uniform => "Uniform"
  | .acceptOnly => "AcceptOnly"

end Office

/-- An office at work. -/
structure Office where
  tournament : Tournament
  queue : Queue
  policy : Office.Policy
  records : Records

namespace Office

/-- How an operation went. -/
structure Outcome (α : Type) where
  result : Except Problem α
  office : Office
  /-- The attempts to write, in order. -/
  writes : List Write

/-- An operation that ends with a problem before anything is written, and the office as it is then. -/
def Outcome.refused {α : Type} (left : Office) (p : Problem) : Outcome α :=
  ⟨.error p, left, []⟩

/-- The attempt to write the tournament as it is in memory. -/
def tournamentWrite (o : Office) (trouble : Trouble) : Write :=
  ⟨.tournament, o.tournament.toRecord, (trouble .tournament).isNone⟩

/-- The attempt to write the queue as it is in memory. -/
def queueWrite (o : Office) (trouble : Trouble) : Write :=
  ⟨.queue, Registration.entrantsRecord o.queue.entries, (trouble .queue).isNone⟩

/-- The office after an attempt to write. -/
def wrote (o : Office) (w : Write) : Office :=
  { o with records := o.records.after w }

/-- Whether a name is on the roster, up to case and blanks at the ends. Removed players count. -/
def onRoster (o : Office) (name : String) : Bool :=
  o.tournament.players.any fun p => Text.sameName p.name name

/-! ## Opening -/

def readTournament (record : Option ByteArray) : Except Problem Tournament :=
  match record with
  | none => .ok Tournament.empty
  | some octets => (Tournament.load octets).mapError .tournament

def readQueue (record : Option ByteArray) : Except Problem Queue :=
  match Storage.readEntrants record with
  | .ok es => .ok ⟨es.getD []⟩
  | .error fault => .error (.storage fault)

/-- Takes up the work where the records left it. The tournament is read first. -/
def openOn (read : RecordName → Except Storage.Fault (Option ByteArray)) (policy : Policy) :
    Except Problem Office :=
  match read .tournament with
  | .error fault => .error (.storage fault)
  | .ok tournamentRecord =>
    match readTournament tournamentRecord with
    | .error p => .error p
    | .ok tournament =>
      match read .queue with
      | .error fault => .error (.storage fault)
      | .ok queueRecord =>
        match readQueue queueRecord with
        | .error p => .error p
        | .ok queue => .ok ⟨tournament, queue, policy, ⟨tournamentRecord, queueRecord⟩⟩

/-- Opens an office on records. -/
def open? (records : Records) (trouble : Trouble) (policy : Policy) : Except Problem Office :=
  openOn (records.read trouble) policy

end Office
end TournamentDesk
