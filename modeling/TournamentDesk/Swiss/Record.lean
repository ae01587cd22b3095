import TournamentDesk.Swiss.Refusal

/-!
# The tournament record

A tournament is written as one compact JSON object with its fields in a fixed order, and read back
from the same shape. Numbers of players have 64 bits, counts have 32.
-/

namespace TournamentDesk
namespace Swiss

open Json (Field Reader Value)

/-! ## Numbers -/

/-- The least number of a player that a record holds. -/
def minId : Int :=
  -9223372036854775808

/-- The greatest number of a player that a record holds. -/
def maxId : Int :=
  9223372036854775807

/-- The greatest rank that a record holds. -/
def maxRank : Nat :=
  18446744073709551615

def readId : Reader PlayerId :=
  Json.readInt minId maxId

def readCount : Reader Nat :=
  Json.readNat maxCount

/-! ## Words -/

def Phase.words : List (String × Phase) :=
  [Phase.notStarted, .inProgress, .completed].map fun p => (p.word, p)

def Phase.toJson (p : Phase) : Value :=
  .string p.word

/-! ## Players -/

def Player.toJson (p : Player) : Value :=
  .object [("id", .int p.id), ("name", .string p.name), ("removed", .bool p.removed)]

def Player.fields : List Field :=
  [.required "id" readId, .required "name" Json.readText, .optional "removed" Json.readBool false]

def Player.read : Reader Player :=
  Json.readRecord Player.fields fun (id, name, removed, ()) => ⟨id, name, removed⟩

/-! ## Scores and tables -/

def Score.toJson (s : Score) : Value :=
  .object [("wins", .int s.wins), ("losses", .int s.losses), ("draws", .int s.draws)]

/-- The value of a score that may be missing. -/
def optionalScore (s : Option Score) : Value :=
  s.elim .null Score.toJson

def Score.fields : List Field :=
  [.required "wins" readCount, .required "losses" readCount, .required "draws" readCount]

def Score.read : Reader Score :=
  Json.readRecord Score.fields fun (wins, losses, draws, ()) => ⟨wins, losses, draws⟩

def Table.toJson (t : Table) : Value :=
  .object [("player_a", .int t.first), ("player_b", .int t.second), ("result", optionalScore t.score)]

def Table.fields : List Field :=
  [.required "player_a" readId, .required "player_b" readId,
    .optionalMember "result" (Json.readOption Score.read) none]

def Table.read : Reader Table :=
  Json.readRecord Table.fields fun (first, second, score, ()) => ⟨first, second, score⟩

def Played.toJson (p : Played) : Value :=
  .object [("round", .int p.round), ("pairing", p.table.toJson)]

def Played.fields : List Field :=
  [.required "round" readCount, .required "pairing" Table.read]

def Played.read : Reader Played :=
  Json.readRecord Played.fields fun (round, table, ()) => ⟨round, table⟩

/-! ## Standings -/

def Standing.toJson (s : Standing) : Value :=
  .object
    [("rank", .int s.rank), ("player_id", .int s.id), ("name", .string s.name),
      ("points", .int s.points), ("wins", .int s.wins), ("losses", .int s.losses),
      ("draws", .int s.draws), ("game_wins", .int s.gameWins), ("game_losses", .int s.gameLosses),
      ("game_draws", .int s.gameDraws), ("opponent_match_win_pct", .float s.opponentMatchPct),
      ("game_win_pct", .float s.gamePct), ("opponent_game_win_pct", .float s.opponentGamePct),
      ("removed", .bool s.removed)]

def Standing.fields : List Field :=
  [.required "rank" (Json.readNat maxRank), .required "player_id" readId,
    .required "name" Json.readText, .required "points" readCount, .required "wins" readCount,
    .required "losses" readCount, .required "draws" readCount, .required "game_wins" readCount,
    .required "game_losses" readCount, .required "game_draws" readCount,
    .required "opponent_match_win_pct" Json.readFloat, .required "game_win_pct" Json.readFloat,
    .required "opponent_game_win_pct" Json.readFloat, .required "removed" Json.readBool]

def Standing.read : Reader Standing :=
  Json.readRecord Standing.fields
    fun (rank, id, name, points, wins, losses, draws, gameWins, gameLosses, gameDraws,
        opponentMatchPct, gamePct, opponentGamePct, removed, ()) =>
      { rank, id, name, points, wins, losses, draws, gameWins, gameLosses, gameDraws,
        opponentMatchPct, gamePct, opponentGamePct, removed }

/-! ## Tournaments -/

def Tournament.toJson (t : Tournament) : Value :=
  .object
    [("status", t.phase.toJson), ("current_round", .int t.round), ("last_id", .int t.lastId),
      ("players", .array (t.players.map Player.toJson)),
      ("pairings", .array (t.tables.map Table.toJson)),
      ("history", .array (t.history.map Played.toJson)),
      ("standings", .array (t.standings.map Standing.toJson))]

def Tournament.fields : List Field :=
  [.required "status" (Json.readWord Phase.words), .required "current_round" readCount,
    .required "last_id" readId, .required "players" (Json.readList Player.read),
    .required "pairings" (Json.readList Table.read), .required "history" (Json.readList Played.read),
    .required "standings" (Json.readList Standing.read)]

def Tournament.read : Reader Tournament :=
  Json.readRecord Tournament.fields
    fun (phase, round, lastId, players, tables, history, standings, ()) =>
      ⟨phase, round, lastId, players, tables, history, standings⟩

namespace Tournament

/-- The text of the tournament record. -/
def dump (t : Tournament) : String :=
  t.toJson.render .compact

/-- The octets of the tournament record. -/
def toRecord (t : Tournament) : ByteArray :=
  t.dump.toUTF8

/-- Reads the tournament record. -/
def load (record : ByteArray) : Except Refusal Tournament :=
  (Json.readBytes Tournament.read record).mapError .unreadable

end Tournament

end Swiss
end TournamentDesk
