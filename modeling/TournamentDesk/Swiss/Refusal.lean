import TournamentDesk.Swiss.Basic
import TournamentDesk.Text.Quoted
import TournamentDesk.Json.Record

/-!
# Refusals

Why a tournament refuses what it is asked to do, and what it says then.
-/

namespace TournamentDesk
namespace Swiss

/-- Why a score is refused. -/
inductive ScoreFlaw where
  | noGames
  | tooManyGames
  | other (reason : String)
deriving DecidableEq, Repr

/-- Most games of one match. -/
def maxGames : Nat :=
  99

def ScoreFlaw.message : ScoreFlaw → String
  | .noGames => "a result must record at least one game"
  | .tooManyGames => "a match has at most " ++ toString maxGames ++ " games"
  | .other reason => reason

/-- Why a tournament refuses what it is asked to do. -/
inductive Refusal where
  | emptyName
  /-- The roster has this very name already. -/
  | duplicatePlayer (name : String)
  /-- The roster has no such player, or the player has left. -/
  | unknownPlayer (id : PlayerId)
  /-- The tournament is not as far, or farther, than it has to be. -/
  | invalidState (expected actual : Phase)
  | insufficientPlayers (needed current : Nat)
  | noValidPairing
  | resultsAlreadyRecorded (round : Nat)
  | notPaired (round : Nat)
  | notInRound (id : PlayerId)
  | byeResult (id : PlayerId)
  | incompleteRound (round missing : Nat)
  | invalidResult (flaw : ScoreFlaw)
  | unreadable (fault : Json.Fault)
deriving DecidableEq, Repr

def Refusal.message : Refusal → String
  | .emptyName => "Player name must not be empty"
  | .duplicatePlayer name => "Player " ++ Text.quoted name ++ " is already in the tournament"
  | .unknownPlayer id => "Unknown player id: " ++ toString id
  | .invalidState expected actual =>
    "Tournament not in correct state: expected " ++ expected.word ++ ", got " ++ actual.word
  | .insufficientPlayers needed current =>
    "Insufficient players: need " ++ toString needed ++ ", have " ++ toString current
  | .noValidPairing => "No pairing without rematches exists for this round"
  | .resultsAlreadyRecorded round =>
    "Results already recorded for round " ++ toString round ++ "; advance before pairing again"
  | .notPaired round => "Round " ++ toString round ++ " has not been paired"
  | .notInRound id => "Player " ++ toString id ++ " is not paired in the current round"
  | .byeResult id => "Player " ++ toString id ++ " has a bye this round"
  | .incompleteRound round missing =>
    "Missing results for " ++ toString missing ++ " pairing(s) in round " ++ toString round
  | .invalidResult flaw => "Invalid result: " ++ flaw.message
  | .unreadable fault => "Serialization error: " ++ fault.message

end Swiss
end TournamentDesk
