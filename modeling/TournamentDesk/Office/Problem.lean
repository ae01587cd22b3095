import TournamentDesk.Registration.Queue
import TournamentDesk.Storage.Fault
import TournamentDesk.Swiss.Refusal

/-!
# Problems of the office

Why the office does not do what it is asked to do, in two wordings: one for the organizer's log, and
one for clients, which says nothing about storage.

* `clientMessage_storage`: a client reads the same, whatever the fault of the storage is.
-/

namespace TournamentDesk
namespace Office

/-- The record that an acceptance failed to save. -/
inductive Stage where
  | tournament
  | queue
deriving DecidableEq, Repr

def Stage.message : Stage → String
  | .tournament => "tournament state"
  | .queue => "registration queue"

/-- Why the office does not do what it is asked to do. -/
inductive Problem where
  | registration (refusal : Registration.Refusal)
  | tournament (refusal : Swiss.Refusal)
  | storage (fault : Storage.Fault)
  /-- An entrant plays now, but a record could not be saved. -/
  | partialCommit (name : String) (stage : Stage) (cause : Problem)
deriving DecidableEq, Repr

namespace Problem

def message : Problem → String
  | .registration refusal => refusal.message
  | .tournament refusal => refusal.message
  | .storage fault => "Storage error: " ++ fault.message
  | .partialCommit name stage cause =>
    "Accepting " ++ Text.quoted name ++ " was only partially saved (" ++ stage.message ++ "): " ++
      cause.message

/-- A problem in words, for clients. -/
def clientMessage : Problem → String
  | .registration refusal => refusal.message
  | .tournament refusal => refusal.message
  | .storage _ => "Failed to save tournament data"
  | .partialCommit name _ _ =>
    "Player " ++ Text.quoted name ++
      " was added to the tournament but the change was not fully saved"

/-- Whether no pending entry has the name that was asked for. -/
def isNotFound : Problem → Bool
  | .registration (.notFound _ _) => true
  | _ => false

/-- Whether the registration queue refuses. -/
def isValidation : Problem → Bool
  | .registration _ => true
  | _ => false

/-- The problem at the bottom of partial commits. -/
def root : Problem → Problem
  | .partialCommit _ _ cause => cause.root
  | p => p

theorem clientMessage_storage (f g : Storage.Fault) :
    (Problem.storage f).clientMessage = (Problem.storage g).clientMessage :=
  rfl

end Problem

end Office
end TournamentDesk
