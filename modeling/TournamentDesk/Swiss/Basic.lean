/-!
# Players, tables and tournaments

A tournament keeps a roster in order of arrival, the tables of the current round, the tables of all
finished rounds, and the standings as they were last computed. A table seats two players, or one
player and the bye. Scores are counted in games, from the side of the first seat.
-/

namespace TournamentDesk
namespace Swiss

/-- Players are known by number. -/
abbrev PlayerId := Int

/-- The number that stands for the bye. -/
def byeId : PlayerId :=
  -1

/-- An entry of the roster. A removed player keeps its entry. -/
structure Player where
  id : PlayerId
  name : String
  removed : Bool
deriving DecidableEq, Repr

/-- Games of a match, counted from one side. -/
structure Score where
  wins : Nat
  losses : Nat
  draws : Nat
deriving DecidableEq, Repr

def total (ns : List Nat) : Nat :=
  ns.foldr (· + ·) 0

/-- The score of a bye. -/
def Score.bye : Score :=
  ⟨2, 0, 0⟩

/-- The same score from the other side. -/
def Score.reversed (s : Score) : Score :=
  ⟨s.losses, s.wins, s.draws⟩

/-- All games of a match. -/
def Score.games (s : Score) : Nat :=
  s.wins + s.losses + s.draws

/-- The largest count a record holds. -/
def maxCount : Nat :=
  4294967295

/-- All games of a match, if a record can hold the number. -/
def Score.games? (s : Score) : Option Nat :=
  if s.games ≤ maxCount then some s.games else none

/-- Match points: three for a win, one for a draw. -/
def Score.points (s : Score) : Nat :=
  if s.losses < s.wins then 3 else if s.wins = s.losses then 1 else 0

/-- A table of a round. -/
structure Table where
  first : PlayerId
  /-- The player in the second seat, or the bye. -/
  second : PlayerId
  /-- The score from the side of the first seat, once it is known. -/
  score : Option Score
deriving DecidableEq, Repr

/-- A table at which no result is known. -/
def Table.fresh (first second : PlayerId) : Table :=
  ⟨first, second, none⟩

/-- A table with a bye, which is scored at once. -/
def Table.bye (player : PlayerId) : Table :=
  ⟨player, byeId, some Score.bye⟩

/-- Whether a table holds a bye. -/
def Table.isBye (t : Table) : Bool :=
  t.second = byeId

def Table.seats (t : Table) : List PlayerId :=
  [t.first, t.second]

/-- Whether a player sits at a table. -/
def Table.involves (t : Table) (id : PlayerId) : Bool :=
  t.first = id || t.second = id

/-- Who sits across from a player. -/
def Table.opponentOf (t : Table) (id : PlayerId) : Option PlayerId :=
  if t.first = id then some t.second
  else if t.second = id then some t.first
  else none

/-- The score from a player's side. -/
def Table.scoreFor (t : Table) (id : PlayerId) : Option Score :=
  if t.first = id then t.score
  else if t.second = id then t.score.map Score.reversed
  else none

/-- A table of a finished round. -/
structure Played where
  round : Nat
  table : Table
deriving DecidableEq, Repr

/-- A row of the standings. -/
structure Standing where
  /-- The place, counted from one. -/
  rank : Nat
  id : PlayerId
  name : String
  points : Nat
  wins : Nat
  losses : Nat
  draws : Nat
  gameWins : Nat
  gameLosses : Nat
  gameDraws : Nat
  /-- The mean of the opponents' match-win percentages. -/
  opponentMatchPct : Float
  /-- The player's own game-win percentage. -/
  gamePct : Float
  /-- The mean of the opponents' game-win percentages. -/
  opponentGamePct : Float
  removed : Bool

/-- How far a tournament has come. -/
inductive Phase where
  | notStarted
  | inProgress
  | completed
deriving DecidableEq, Repr

def Phase.word : Phase → String
  | .notStarted => "not_started"
  | .inProgress => "in_progress"
  | .completed => "completed"

/-- A Swiss tournament. -/
structure Tournament where
  phase : Phase
  round : Nat
  /-- The number given to the last player that was added. -/
  lastId : PlayerId
  players : List Player
  tables : List Table
  /-- The tables of all finished rounds, oldest first. -/
  history : List Played
  /-- The standings as they were last computed. -/
  standings : List Standing

def Tournament.empty : Tournament :=
  ⟨.notStarted, 0, 0, [], [], [], []⟩

namespace Tournament

/-- The players who have not left. -/
def activePlayers (t : Tournament) : List Player :=
  t.players.filter fun p => !p.removed

/-- The numbers of the players who have not left, in order of the roster. -/
def activeIds (t : Tournament) : List PlayerId :=
  t.activePlayers.map Player.id

def playerCount (t : Tournament) : Nat :=
  t.activePlayers.length

/-- The first roster entry with a number. -/
def findPlayer (t : Tournament) (id : PlayerId) : Option Player :=
  t.players.find? fun p => p.id = id

def playerName (t : Tournament) (id : PlayerId) : Option String :=
  (t.findPlayer id).map Player.name

/-- The number of the player with exactly this name. -/
def playerId (t : Tournament) (name : String) : Option PlayerId :=
  (t.players.find? fun p => p.name = name).map Player.id

end Tournament

end Swiss
end TournamentDesk
