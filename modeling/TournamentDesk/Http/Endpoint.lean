import TournamentDesk.Http.Message

/-!
# Endpoints

What can be asked over HTTP: each endpoint has one path of its own, is either a view or a deed, and is
open to everybody or to the organizer only.

* `at?_path`: every endpoint is found under its path.
-/

namespace TournamentDesk
namespace Http

/-- What can be asked. -/
inductive Endpoint where
  | health
  | register
  | tournament
  | pairings
  | standings
  | dashboard
  | pending
  | accept
  | reject
  | start
  | pair
  | nextRound
  | results
  | computeStandings
  | removePlayer
  | finish
deriving DecidableEq, Repr

/-- Who may use an endpoint. -/
inductive Audience where
  | everybody
  | organizer
deriving DecidableEq, Repr

/-- What an endpoint is for. -/
inductive Purpose where
  | view
  | deed
deriving DecidableEq, Repr

/-- Whether a method goes with a purpose. A view can be asked for without the body too. -/
def Purpose.allows : Purpose → Method → Bool
  | .view, .get | .view, .head | .deed, .post => true
  | _, _ => false

namespace Endpoint

/-- All endpoints. -/
def all : List Endpoint :=
  [health, register, tournament, pairings, standings, dashboard, pending, accept, reject, start, pair,
    nextRound, results, computeStandings, removePlayer, finish]

def path : Endpoint → String
  | health => "/health"
  | register => "/api/v1/register"
  | tournament => "/api/v1/tournament"
  | pairings => "/api/v1/pairings"
  | standings => "/api/v1/standings"
  | dashboard => "/api/v1/admin/dashboard"
  | pending => "/api/v1/admin/pending"
  | accept => "/api/v1/admin/accept"
  | reject => "/api/v1/admin/reject"
  | start => "/api/v1/admin/start"
  | pair => "/api/v1/admin/pair"
  | nextRound => "/api/v1/admin/next-round"
  | results => "/api/v1/admin/results"
  | computeStandings => "/api/v1/admin/standings"
  | removePlayer => "/api/v1/admin/remove-player"
  | finish => "/api/v1/admin/finish"

/-- Who may use an endpoint. -/
def audience : Endpoint → Audience
  | health | register | tournament | pairings | standings => .everybody
  | _ => .organizer

/-- What an endpoint is for. -/
def purpose : Endpoint → Purpose
  | health | tournament | pairings | standings | dashboard | pending => .view
  | _ => .deed

def at? (path : String) : Option Endpoint :=
  all.find? fun e => e.path = path

theorem at?_path (e : Endpoint) : at? e.path = some e := by
  cases e <;> decide

end Endpoint

end Http
end TournamentDesk
