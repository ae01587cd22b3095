import TournamentDesk.Deed
import TournamentDesk.Registration.Entrant
import TournamentDesk.Text.Quoted

/-!
# The registration queue

All requests in the order in which they were made, decided ones included. An entry keeps its position
for good: deciding a request changes its status only, and only the newest entry is ever taken back.
-/

namespace TournamentDesk
namespace Registration

open Deed (refuseIf)
open Time (Instant)

/-- Why the queue refuses what it is asked to do. -/
inductive Refusal where
  | emptyName
  | alreadyPending (name : String)
  | alreadyActive (name : String)
  | notFound (name : String) (pending : List String)
  | invalidPosition (position : Nat)
deriving DecidableEq, Repr

def Refusal.message : Refusal → String
  | .emptyName => "Name is required"
  | .alreadyPending name => "player " ++ name ++ " is already pending"
  | .alreadyActive name => "player " ++ name ++ " is already in the tournament"
  | .notFound name [] =>
    "player " ++ Text.quoted name ++ " not found in pending list (no pending players)"
  | .notFound name pending =>
    "player " ++ Text.quoted name ++ " not found in pending list. Available: " ++
      String.intercalate ", " (pending.map Text.quoted)
  | .invalidPosition position => "Invalid queue position: " ++ toString position

/-- The registration queue. -/
structure Queue where
  /-- All entries, oldest first. -/
  entries : List Entrant
deriving DecidableEq, Repr

/-- An entry that was looked up. -/
structure Found where
  position : Nat
  name : String
deriving DecidableEq, Repr

namespace Queue

def empty : Queue :=
  ⟨[]⟩

/-- The entries nobody has decided yet, oldest first. -/
def pending (q : Queue) : List Entrant :=
  q.entries.filter Entrant.isPending

def pendingNames (q : Queue) : List String :=
  q.pending.map Entrant.name

/-- The first entry with a property, and its position. -/
def locate (p : Entrant → Bool) (q : Queue) : Option Found :=
  match q.entries.findIdx? p with
  | some i => q.entries[i]?.map fun e => ⟨i, e.name⟩
  | none => none

/-- Whether some pending entry has a name, up to case and blanks at the ends. -/
def hasPending (q : Queue) (name : String) : Bool :=
  q.entries.any fun e => e.isPending && e.matchesName name

/-- Whether a request under a name depends on who plays already. -/
def asksRoster (q : Queue) (name : String) : Bool :=
  !Text.isBlank name && !q.hasPending name

/-- Appends a pending entry at the end. -/
def push (q : Queue) (name : String) (now : Instant) : Queue :=
  ⟨q.entries ++ [⟨name, .pending, some now⟩]⟩

/-- Takes in a request, and gives the position of its entry. The roster is asked only about a name
that is neither blank nor pending. -/
def submitting (name : String) (onRoster : String → Bool) (now : Instant) :
    Deed Queue Refusal Nat := do
  refuseIf (Text.isBlank name) .emptyName
  let q ← get
  refuseIf (q.hasPending name) (.alreadyPending name)
  refuseIf (onRoster name) (.alreadyActive name)
  modify fun q => q.push name now
  return (← get).entries.length - 1

/-- The queue and the position that a request ends with, unless it is refused. -/
def submit (q : Queue) (name : String) (onRoster : String → Bool) (now : Instant) :
    Except Refusal (Queue × Nat) :=
  (submitting name onRoster now).done q

/-- The first pending entry with a name, up to case and blanks at the ends. -/
def findPending (q : Queue) (name : String) : Except Refusal Found :=
  match q.locate fun e => e.isPending && e.matchesName name with
  | some found => .ok found
  | none => .error (.notFound name q.pendingNames)

/-- The first pending entry with exactly this name. -/
def findPendingExact (q : Queue) (name : String) : Except Refusal Found :=
  match q.locate fun e => e.isPending && e.name = name with
  | some found => .ok found
  | none => .error (.notFound name q.pendingNames)

/-- Sets the status of the entry at a position, if there is one. -/
def setStatus (q : Queue) (position : Nat) (status : Status) : Queue :=
  ⟨q.entries.modify position fun e => { e with status }⟩

/-- Sets the status of the entry at a position. -/
def marking (position : Nat) (status : Status) : Deed Queue Refusal Unit := do
  let q ← get
  refuseIf (q.entries.length ≤ position) (.invalidPosition position)
  modify fun q => q.setStatus position status

/-- The queue after the status at a position has been set, unless that is refused. -/
def mark (q : Queue) (position : Nat) (status : Status) : Except Refusal Queue :=
  (marking position status).makes q

/-- Takes back the entry at a position. -/
def discard (q : Queue) (position : Nat) : Queue :=
  ⟨q.entries.eraseIdx position⟩

/-- The text of the queue, on one line. -/
def dump (q : Queue) : String :=
  (Json.Value.array (q.entries.map Entrant.toJson)).render .compact

/-! ## Deeds -/

theorem submit_eq (q : Queue) (name : String) (onRoster : String → Bool) (now : Instant) :
    q.submit name onRoster now =
      if Text.isBlank name then .error .emptyName
      else if q.hasPending name then .error (.alreadyPending name)
      else if onRoster name then .error (.alreadyActive name)
      else .ok (q.push name now, q.entries.length) := by
  have hposition : (q.push name now).entries.length - 1 = q.entries.length := by
    simp [push]
  simp only [submit, submitting, Deed.done_refuseIf_bind, Deed.done_get_bind, Deed.done_modify_bind,
    hposition]
  rfl

end Queue

end Registration
end TournamentDesk
