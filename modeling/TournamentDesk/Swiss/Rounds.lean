import Std.Data.HashSet
import TournamentDesk.Deed
import TournamentDesk.Swiss.Refusal
import TournamentDesk.Swiss.Search

/-!
# Rounds

What can be asked of a tournament: adding and removing players, pairing rounds, recording results and
closing rounds. A verb works on the tournament in place, and may be refused.

The first round is paired in an order drawn by lot, later rounds by the points of the finished rounds.

The number of the round, the last number of a player and the points by which a round is paired have no bound
here. A record bounds them, and stays within its bounds for several hundred million finished tables.
-/

namespace TournamentDesk
namespace Swiss

open Deed

/-- How the order of the first round is drawn: a rearrangement of the field. -/
abbrev Draw := List PlayerId → List PlayerId

/-- Fewest players of a round. -/
def minPlayers : Nat :=
  2

/-- How many opponents the search for a pairing may try. -/
def searchBudget : Nat :=
  100000

/-! ## The field of a round -/

/-- Match points of a player at one table, counted once for each of its seats there. -/
def Table.pointsFor (t : Table) (id : PlayerId) : Nat :=
  total <| (t.seats.filter fun seat => seat = id).map fun seat =>
    ((t.scoreFor seat).map Score.points).getD 0

/-- Match points of a player from finished rounds. -/
def pointsIn (history : List Played) (id : PlayerId) : Nat :=
  total (history.map fun r => r.table.pointsFor id)

/-- Orders by points, most first, and then by number, least first. -/
def seededBefore (a b : Nat × PlayerId) : Bool :=
  b.1 < a.1 || (a.1 = b.1 && a.2 ≤ b.2)

/-- The players in the order in which a round is paired after finished rounds. -/
def seeded (history : List Played) (ids : List PlayerId) : List PlayerId :=
  ((ids.map fun id => (pointsIn history id, id)).mergeSort seededBefore).map Prod.snd

/-- Two players in either order, as one value. -/
def couple (a b : PlayerId) : PlayerId × PlayerId :=
  (min a b, max a b)

/-- The players who have met in finished rounds. -/
def meetings (history : List Played) : Std.HashSet (PlayerId × PlayerId) :=
  Std.HashSet.ofList
    (((history.map Played.table).filter fun t => !t.isBye).map fun t => couple t.first t.second)

/-- The players who have had a bye in finished rounds. -/
def pastByes (history : List Played) : List PlayerId :=
  ((history.map Played.table).filter Table.isBye).map Table.first

/-- The players in the order in which they are tried for the bye: from the last one up, those without
a bye so far before the others. -/
def byeCandidates (history : List Played) (field : List PlayerId) : List PlayerId :=
  let hadBye := Std.HashSet.ofList (pastByes history)
  let (fresh, again) := field.reverse.partition fun id => !hadBye.contains id
  fresh ++ again

namespace Tournament

/-- The field of the next round, in the order in which it is paired. -/
def field (t : Tournament) (draw : Draw) : List PlayerId :=
  if t.history.isEmpty then draw t.activeIds else seeded t.history t.activeIds

/-- Searches for a pairing of a field, with or without rematches. -/
def search (t : Tournament) (field : List PlayerId) (allowRematch : Bool) : Outcome :=
  let met := meetings t.history
  let haveMet : Rule := fun a b => met.contains (couple a b)
  if field.length % 2 = 0 then pairUp haveMet allowRematch field searchBudget
  else pairWithBye haveMet allowRematch field (byeCandidates t.history field) searchBudget

/-- The tables of a new round. Rematches are used only if they are allowed and there is no answer
without them. -/
def drawTables (t : Tournament) (draw : Draw) (allowRepair : Bool) :
    Except Refusal (List Table) :=
  if t.playerCount < minPlayers then
    .error (.insufficientPlayers minPlayers t.playerCount)
  else
    let field := t.field draw
    match (t.search field false).tables with
    | some tables => .ok tables
    | none =>
      if allowRepair then
        match (t.search field true).tables with
        | some tables => .ok tables
        | none => .error .noValidPairing
      else .error .noValidPairing

/-! ## Parts of verbs -/

def require (t : Tournament) (phase : Phase) : Except Refusal Unit :=
  if t.phase = phase then .ok () else .error (.invalidState phase t.phase)

/-- Marks the first entry with a number that is not removed yet. -/
def markRemoved (id : PlayerId) : List Player → Option (List Player)
  | [] => none
  | p :: rest =>
    if p.id = id && !p.removed then some ({ p with removed := true } :: rest)
    else (markRemoved id rest).map (p :: ·)

/-- Whether some table other than a bye has a result. -/
def hasResults (t : Tournament) : Bool :=
  t.tables.any fun table => !table.isBye && table.score.isSome

/-- How many tables of the current round have no result. -/
def missing (t : Tournament) : Nat :=
  t.tables.countP fun table => table.score.isNone

/-- Requires a score of at least one game and of no more than a match may have. -/
def checkScore (score : Score) : Except Refusal Unit :=
  if score.games = 0 then .error (.invalidResult .noGames)
  else if score.games ≤ maxGames then .ok ()
  else .error (.invalidResult .tooManyGames)

/-- Puts a score, seen from a player's side, on the first table the player sits at. -/
def enterScore (id : PlayerId) (score : Score) : List Table → Except Refusal (List Table)
  | [] => .error (.notInRound id)
  | table :: rest =>
    if table.involves id then
      if table.isBye then .error (.byeResult id)
      else
        .ok ({ table with score := some (if table.first = id then score else score.reversed) } :: rest)
    else (enterScore id score rest).map (table :: ·)

/-! ## Verbs -/

/-- Adds a player under a name that no roster entry has, and gives the player the next number. -/
def adding (name : String) : Deed Tournament Refusal PlayerId := do
  refuseIf (Text.isBlank name) .emptyName
  let t ← get
  refuseIf (t.phase = .completed) (.invalidState .notStarted t.phase)
  refuseIf (t.players.any fun p => p.name = name) (.duplicatePlayer name)
  modify fun t => { t with lastId := t.lastId + 1 }
  modify fun t => { t with players := t.players ++ [⟨t.lastId, name, false⟩] }
  return (← get).lastId

/-- Removes a player. The name stays taken. -/
def removing (id : PlayerId) : Deed Tournament Refusal Unit := do
  match markRemoved id (← get).players with
  | some players => modify fun t => { t with players }
  | none => throw (.unknownPlayer id)

/-- Starts the tournament and pairs its first round. -/
def starting (draw : Draw) : Deed Tournament Refusal Unit := do
  look fun t => t.require .notStarted
  let tables ← look fun t => t.drawTables draw false
  modify fun t => { t with phase := .inProgress }
  modify fun t => { t with round := 1 }
  modify fun t => { t with tables }

/-- Pairs the current round, or pairs it anew as long as it has no results. -/
def pairing (draw : Draw) (allowRepair : Bool) : Deed Tournament Refusal Unit := do
  look fun t => t.require .inProgress
  let t ← get
  refuseIf t.hasResults (.resultsAlreadyRecorded t.round)
  let tables ← look fun t => t.drawTables draw allowRepair
  modify fun t => { t with tables }

/-- Closes the current round, once every table has a result. -/
def closing : Deed Tournament Refusal Unit := do
  look fun t => t.require .inProgress
  let t ← get
  refuseIf t.tables.isEmpty (.notPaired t.round)
  refuseIf (0 < t.missing) (.incompleteRound t.round t.missing)
  modify fun t => { t with history := t.history ++ t.tables.map (Played.mk t.round) }
  modify fun t => { t with tables := [] }
  modify fun t => { t with round := t.round + 1 }

/-- Records the score of a player's match in the current round, in place of an earlier one. -/
def recording (id : PlayerId) (score : Score) : Deed Tournament Refusal Unit := do
  look fun t => t.require .inProgress
  look fun _ => checkScore score
  let t ← get
  refuseIf (t.findPlayer id).isNone (.unknownPlayer id)
  let tables ← look fun t => enterScore id score t.tables
  modify fun t => { t with tables }

def finishing : Deed Tournament Refusal Unit := do
  look fun t => t.require .inProgress
  modify fun t => { t with phase := .completed }

/-! ## What verbs make of a tournament -/

/-- The tournament with one more player, and the player's number. -/
def addPlayer (t : Tournament) (name : String) : Except Refusal (Tournament × PlayerId) :=
  (adding name).done t

def removePlayer (t : Tournament) (id : PlayerId) : Except Refusal Tournament :=
  (removing id).makes t

def start (t : Tournament) (draw : Draw) : Except Refusal Tournament :=
  (starting draw).makes t

def pair (t : Tournament) (draw : Draw) (allowRepair : Bool) : Except Refusal Tournament :=
  (pairing draw allowRepair).makes t

def nextRound (t : Tournament) : Except Refusal Tournament :=
  closing.makes t

def recordResult (t : Tournament) (id : PlayerId) (score : Score) : Except Refusal Tournament :=
  (recording id score).makes t

def finish (t : Tournament) : Except Refusal Tournament :=
  finishing.makes t

theorem addPlayer_eq (t : Tournament) (name : String) :
    t.addPlayer name =
      if Text.isBlank name then .error .emptyName
      else if t.phase = .completed then .error (.invalidState .notStarted t.phase)
      else if t.players.any fun p => p.name = name then .error (.duplicatePlayer name)
      else
        let id := t.lastId + 1
        .ok ({ t with lastId := id, players := t.players ++ [⟨id, name, false⟩] }, id) := by
  simp only [addPlayer, adding, done_refuseIf_bind, done_get_bind, done_modify_bind]
  rfl

theorem removePlayer_eq (t : Tournament) (id : PlayerId) :
    t.removePlayer id =
      match markRemoved id t.players with
      | some players => .ok { t with players }
      | none => .error (.unknownPlayer id) := by
  simp only [removePlayer, removing, makes_get_bind]
  cases markRemoved id t.players <;> rfl

theorem start_eq (t : Tournament) (draw : Draw) :
    t.start draw = do
      t.require .notStarted
      let tables ← t.drawTables draw false
      return { t with phase := .inProgress, round := 1, tables } := by
  simp only [start, starting, makes_look_bind, makes_modify_bind, makes_modify]
  rfl

theorem pair_eq (t : Tournament) (draw : Draw) (allowRepair : Bool) :
    t.pair draw allowRepair = do
      t.require .inProgress
      if t.hasResults then .error (.resultsAlreadyRecorded t.round)
      else
        let tables ← t.drawTables draw allowRepair
        return { t with tables } := by
  simp only [pair, pairing, makes_look_bind, makes_get_bind, makes_refuseIf_bind, makes_modify]
  rfl

theorem nextRound_eq (t : Tournament) :
    t.nextRound = do
      t.require .inProgress
      if t.tables.isEmpty then .error (.notPaired t.round)
      else if 0 < t.missing then .error (.incompleteRound t.round t.missing)
      else
        return { t with
          history := t.history ++ t.tables.map (Played.mk t.round)
          tables := []
          round := t.round + 1 } := by
  simp only [nextRound, closing, makes_look_bind, makes_get_bind, makes_refuseIf_bind,
    makes_modify_bind, makes_modify]
  rfl

theorem recordResult_eq (t : Tournament) (id : PlayerId) (score : Score) :
    t.recordResult id score = do
      t.require .inProgress
      checkScore score
      if (t.findPlayer id).isNone then .error (.unknownPlayer id)
      else
        let tables ← enterScore id score t.tables
        return { t with tables } := by
  simp only [recordResult, recording, makes_look_bind, makes_get_bind, makes_refuseIf_bind,
    makes_modify]
  rfl

theorem finish_eq (t : Tournament) :
    t.finish = do
      t.require .inProgress
      return { t with phase := .completed } := by
  simp only [finish, finishing, makes_look_bind, makes_modify]
  rfl

end Tournament

end Swiss
end TournamentDesk
