import TournamentDesk.Office.Basic

/-!
# Views

What is shown of the office: the tables of the current round with the players' names, and everything
the organizer sees at once.
-/

namespace TournamentDesk
namespace Office

open Json (Value)
open Registration (Entrant)
open Swiss (Phase Player PlayerId Score Standing Table Tournament)

def byeLabel : String :=
  "Bye"

/-- A table with the players' names. -/
structure TableView where
  firstId : PlayerId
  first : String
  secondId : PlayerId
  second : String
  isBye : Bool
  score : Option Score
deriving DecidableEq, Repr

/-- Shows a table of a tournament. A seat that nobody on the roster has shows no name. -/
def TableView.of (t : Tournament) (table : Table) : TableView :=
  { firstId := table.first
    first := (t.playerName table.first).getD ""
    secondId := table.second
    second := if table.isBye then byeLabel else (t.playerName table.second).getD ""
    isBye := table.isBye
    score := table.score }

/-- The tables of the current round. -/
def tableViews (t : Tournament) : List TableView :=
  t.tables.map (TableView.of t)

def TableView.toJson (v : TableView) : Value :=
  .object
    [("player_a_id", .int v.firstId), ("player_a", .string v.first), ("player_b_id", .int v.secondId),
      ("player_b", .string v.second), ("is_bye", .bool v.isBye),
      ("result", Swiss.optionalScore v.score)]

/-- Everything the organizer sees at once. -/
structure Snapshot where
  phase : Phase
  round : Nat
  playerCount : Nat
  players : List Player
  pending : List Entrant
  tables : List TableView
  standings : List Standing

/-- What the organizer sees now. -/
def snapshot (o : Office) : Snapshot :=
  { phase := o.tournament.phase
    round := o.tournament.round
    playerCount := o.tournament.playerCount
    players := o.tournament.activePlayers
    pending := o.queue.pending
    tables := tableViews o.tournament
    standings := o.tournament.standings }

def Snapshot.toJson (s : Snapshot) : Value :=
  .object
    [("status", s.phase.toJson), ("round", .int s.round), ("player_count", .int s.playerCount),
      ("players", .array (s.players.map Player.toJson)),
      ("pending", .array (s.pending.map Entrant.toJson)),
      ("pairings", .array (s.tables.map TableView.toJson)),
      ("standings", .array (s.standings.map Standing.toJson))]

end Office
end TournamentDesk
