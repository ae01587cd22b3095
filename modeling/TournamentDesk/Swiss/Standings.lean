import TournamentDesk.Swiss.Basic

/-!
# Standings

Each player's matches are summed up in a tally, whose counts stop at the largest count a record
holds. Rows are ranked by points, then by the opponents' match-win percentage, the player's game-win
percentage and the opponents' game-win percentage, highest first, and last by name. Rows that agree
in all five keep the order of the roster.
-/

namespace TournamentDesk
namespace Swiss

/-- A sum that stops at the largest count a record holds. -/
def addCount (a b : Nat) : Nat :=
  min (a + b) maxCount

/-- The sum of a player's matches. -/
structure Tally where
  points : Nat
  wins : Nat
  losses : Nat
  draws : Nat
  gameWins : Nat
  gameLosses : Nat
  gameDraws : Nat
  played : Nat
  /-- The opponents, in the order of the matches, without byes. -/
  opponents : List PlayerId
deriving DecidableEq, Repr

def Tally.zero : Tally :=
  ⟨0, 0, 0, 0, 0, 0, 0, 0, []⟩

/-- Adds one match, given by the score from the player's side. -/
def Tally.addScore (t : Tally) (s : Score) : Tally :=
  { t with
    points := addCount t.points s.points
    wins := addCount t.wins (if s.losses < s.wins then 1 else 0)
    losses := addCount t.losses (if s.wins < s.losses then 1 else 0)
    draws := addCount t.draws (if s.wins = s.losses then 1 else 0)
    gameWins := addCount t.gameWins s.wins
    gameLosses := addCount t.gameLosses s.losses
    gameDraws := addCount t.gameDraws s.draws
    played := addCount t.played 1 }

/-- Adds what a table holds for a player, once for each seat the player has there. -/
def Tally.addTable (id : PlayerId) (t : Tally) (table : Table) : Tally :=
  table.seats.foldl
    (fun t seat =>
      if seat = id then
        match table.scoreFor seat, table.opponentOf seat with
        | some score, some opponent =>
          let t := t.addScore score
          if table.isBye then t else { t with opponents := t.opponents ++ [opponent] }
        | _, _ => t
      else t)
    t

/-- The tally of a player over tables. -/
def Tally.of (tables : List Table) (id : PlayerId) : Tally :=
  tables.foldl (Tally.addTable id) Tally.zero

/-! ## Percentages -/

/-- Match and game percentages of a player who has played are at least one third. -/
def minPct : Float :=
  1.0 / 3.0

def larger (x y : Float) : Float :=
  if x < y then y else x

/-- Match points out of all that could be had, or zero before the first match. -/
def Tally.matchPct (t : Tally) : Float :=
  if t.played = 0 then 0.0
  else larger (Float.ofNat t.points / (3.0 * Float.ofNat t.played)) minPct

/-- Game points out of all that could be had, or zero before the first game. -/
def Tally.gamePct (t : Tally) : Float :=
  let games := Float.ofNat t.gameWins + Float.ofNat t.gameLosses + Float.ofNat t.gameDraws
  if games == 0.0 then 0.0
  else
    larger ((3.0 * Float.ofNat t.gameWins + 1.0 * Float.ofNat t.gameDraws) / (3.0 * games)) minPct

/-- The mean of doubles, summed from the first on, or zero for none. -/
def mean (xs : List Float) : Float :=
  if xs.isEmpty then 0.0 else xs.foldl (· + ·) 0.0 / Float.ofNat xs.length

/-! ## Ranking -/

/-- The bits of a negative zero, the least bits that carry a minus sign. -/
def signBit : Nat :=
  9223372036854775808

/-- A whole number that orders doubles by value, and a negative zero before a positive one. -/
def orderKey (x : Float) : Int :=
  let bits := x.toBits.toNat
  if bits < signBit then bits else (signBit : Int) - 1 - bits

/-- Compares two rows by the five keys, the better row first. -/
def Standing.order (a b : Standing) : Ordering :=
  (compare b.points a.points).then <|
  (compare (orderKey b.opponentMatchPct) (orderKey a.opponentMatchPct)).then <|
  (compare (orderKey b.gamePct) (orderKey a.gamePct)).then <|
  (compare (orderKey b.opponentGamePct) (orderKey a.opponentGamePct)).then <|
  compare a.name b.name

/-- Numbers rows from one. -/
def withRanks (rows : List Standing) : List Standing :=
  rows.mapIdx fun i row => { row with rank := i + 1 }

namespace Tournament

/-- The tables that count: those of finished rounds, and those of the current round with a result. -/
def decidedTables (t : Tournament) : List Table :=
  t.history.map Played.table ++ t.tables.filter fun table => table.score.isSome

/-- The tallies of all roster entries, by number. -/
def tallies (t : Tournament) : List (PlayerId × Tally) :=
  let tables := t.decidedTables
  t.players.map fun p => (p.id, Tally.of tables p.id)

/-- The row of a roster entry, before it is ranked. -/
def row (tallies : List (PlayerId × Tally)) (p : Player) : Standing :=
  let tally := (tallies.lookup p.id).getD Tally.zero
  let opponents := tally.opponents.filterMap fun id => tallies.lookup id
  { rank := 0
    id := p.id
    name := p.name
    points := tally.points
    wins := tally.wins
    losses := tally.losses
    draws := tally.draws
    gameWins := tally.gameWins
    gameLosses := tally.gameLosses
    gameDraws := tally.gameDraws
    opponentMatchPct := mean (opponents.map Tally.matchPct)
    gamePct := tally.gamePct
    opponentGamePct := mean (opponents.map Tally.gamePct)
    removed := p.removed }

/-- The standings of all roster entries. -/
def computeStandings (t : Tournament) : List Standing :=
  let tallies := t.tallies
  withRanks ((t.players.map (row tallies)).mergeSort fun a b => a.order b != .gt)

/-- Computes the standings anew. -/
def updateStandings (t : Tournament) : Tournament :=
  { t with standings := t.computeStandings }

end Tournament

end Swiss
end TournamentDesk
