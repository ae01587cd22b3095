import TournamentDesk.Proofs.Json.Finite
import TournamentDesk.Proofs.Json.Records
import TournamentDesk.Swiss.Record

/-!
# The tournament record and back

A tournament whose numbers fit the record comes back from its octets as it was, but for the
percentages of the standings, which may differ in their last places. These may be any finite doubles;
where they lie between zero and one, they come back between zero and one.

* `load_toRecord`: the record of a tournament that fits is read as the tournament.
* `load_toRecord_of_finite`: so is that of a tournament with any finite percentages.
-/

namespace TournamentDesk
namespace Swiss

open Decimal (Fraction)
open Json (Value)

/-! ## What a record holds -/

/-- The number of a player that a record holds. -/
def IdFits (id : PlayerId) : Prop :=
  minId ≤ id ∧ id ≤ maxId

theorem idFits_byeId : IdFits byeId :=
  ⟨by decide, by decide⟩

structure Score.Fits (s : Score) : Prop where
  wins : s.wins ≤ maxCount
  losses : s.losses ≤ maxCount
  draws : s.draws ≤ maxCount

structure Table.Fits (t : Table) : Prop where
  first : IdFits t.first
  second : IdFits t.second
  score : ∀ s, t.score = some s → s.Fits

structure Played.Fits (p : Played) : Prop where
  round : p.round ≤ maxCount
  table : p.table.Fits

structure Standing.Fits (s : Standing) : Prop where
  rank : s.rank ≤ maxRank
  id : IdFits s.id
  counts : ∀ n ∈ [s.points, s.wins, s.losses, s.draws, s.gameWins, s.gameLosses, s.gameDraws],
    n ≤ maxCount
  opponentMatchPct : Fraction s.opponentMatchPct
  gamePct : Fraction s.gamePct
  opponentGamePct : Fraction s.opponentGamePct

/-- A tournament whose numbers all fit the record. -/
structure Tournament.Fits (t : Tournament) : Prop where
  round : t.round ≤ maxCount
  lastId : IdFits t.lastId
  players : ∀ p ∈ t.players, IdFits p.id
  tables : ∀ table ∈ t.tables, table.Fits
  history : ∀ p ∈ t.history, p.Fits
  standings : ∀ s ∈ t.standings, s.Fits

/-! ## Any finite percentages -/

/-- A row whose whole numbers fit the record. -/
structure Standing.CountsFit (s : Standing) : Prop where
  rank : s.rank ≤ maxRank
  id : IdFits s.id
  counts : ∀ n ∈ [s.points, s.wins, s.losses, s.draws, s.gameWins, s.gameLosses, s.gameDraws],
    n ≤ maxCount

theorem Standing.Fits.countsFit
    {s : Standing}
    (h : s.Fits) :
    s.CountsFit :=
  ⟨h.rank, h.id, h.counts⟩

/-- A row that can be written: its whole numbers fit, and none of its percentages is an infinity or a NaN. -/
structure Standing.Writable (s : Standing) : Prop extends s.CountsFit where
  opponentMatchPct : s.opponentMatchPct.isFinite = true
  gamePct : s.gamePct.isFinite = true
  opponentGamePct : s.opponentGamePct.isFinite = true

/-- A tournament whose numbers outside of the standings fit the record. -/
structure Tournament.OthersFit (t : Tournament) : Prop where
  round : t.round ≤ maxCount
  lastId : IdFits t.lastId
  players : ∀ p ∈ t.players, IdFits p.id
  tables : ∀ table ∈ t.tables, table.Fits
  history : ∀ p ∈ t.history, p.Fits

theorem Tournament.Fits.othersFit
    {t : Tournament}
    (h : t.Fits) :
    t.OthersFit :=
  ⟨h.round, h.lastId, h.players, h.tables, h.history⟩

/-- A tournament whose numbers all fit the record, with any finite percentages. -/
structure Tournament.Writable (t : Tournament) : Prop extends t.OthersFit where
  standings : ∀ s ∈ t.standings, s.Writable

/-! ## What comes back -/

/-- Two rows are the same but for their percentages. -/
def Standing.SameCounts (s s' : Standing) : Prop :=
  s' =
    { s with
      opponentMatchPct := s'.opponentMatchPct
      gamePct := s'.gamePct
      opponentGamePct := s'.opponentGamePct }

/-- Two tournaments are the same but for the percentages of their standings. -/
structure Tournament.SameCounts (t t' : Tournament) : Prop where
  others : t' = { t with standings := t'.standings }
  standings : List.Forall₂ Standing.SameCounts t.standings t'.standings

/-- Without standings nothing is left that could differ. -/
theorem Tournament.SameCounts.eq_of_standings
    {t t' : Tournament}
    (h : t.SameCounts t')
    (hnone : t.standings = []) :
    t' = t := by
  have hstandings := h.standings
  rw [hnone, List.forall₂_nil_left_iff] at hstandings
  rw [h.others, hstandings, ← hnone]

/-! ## The parts -/

theorem readId_int
    {id : PlayerId}
    (h : IdFits id) :
    readId (Value.int id).reading = .ok id :=
  Json.readInt_intNumeral h.1 h.2 (by decide) (by decide)

theorem readCount_int
    {n : Nat}
    (h : n ≤ maxCount) :
    readCount (Value.int n).reading = .ok n :=
  Json.readNat_intNumeral h (by decide)

theorem readPhase_toJson (p : Phase) :
    Json.readWord Phase.words p.toJson.reading = .ok p := by
  refine Json.readWord_string ?_
  cases p <;> rfl

theorem Player.read_toJson
    {p : Player}
    (h : IdFits p.id) :
    Player.read p.toJson.reading = .ok p :=
  Json.readRecord_of_holds
    (.cons (readId_int h) <| .cons (Json.readText_string p.name) <|
      .cons (Json.readBool_bool p.removed) .nil)
    (by decide) _

theorem Score.read_toJson
    {s : Score}
    (h : s.Fits) :
    Score.read s.toJson.reading = .ok s :=
  Json.readRecord_of_holds
    (.cons (readCount_int h.wins) <| .cons (readCount_int h.losses) <|
      .cons (readCount_int h.draws) .nil)
    (by decide) _

theorem readScore_optionalScore
    {s : Option Score}
    (h : ∀ score, s = some score → score.Fits) :
    Json.readOption Score.read (optionalScore s).reading = .ok s := by
  cases s with
  | none => rfl
  | some score =>
      have hread := Score.read_toJson (h score rfl)
      change (Score.read score.toJson.reading).map some = .ok (some score)
      rw [hread]
      rfl

theorem Table.read_toJson
    {t : Table}
    (h : t.Fits) :
    Table.read t.toJson.reading = .ok t :=
  Json.readRecord_of_holds
    (.cons (readId_int h.first) <| .cons (readId_int h.second) <|
      .cons (readScore_optionalScore h.score) .nil)
    (by decide) _

theorem Played.read_toJson
    {p : Played}
    (h : p.Fits) :
    Played.read p.toJson.reading = .ok p :=
  Json.readRecord_of_holds
    (.cons (readCount_int h.round) <| .cons (Table.read_toJson h.table) .nil)
    (by decide) _

/-- A row is read when its percentages are. -/
theorem Standing.read_of_pcts
    {s : Standing}
    (h : s.CountsFit)
    {opponentMatchPct gamePct opponentGamePct : Float}
    (hopponentMatch : Json.readFloat (Value.float s.opponentMatchPct).reading = .ok opponentMatchPct)
    (hgame : Json.readFloat (Value.float s.gamePct).reading = .ok gamePct)
    (hopponentGame : Json.readFloat (Value.float s.opponentGamePct).reading = .ok opponentGamePct) :
    Standing.read s.toJson.reading = .ok { s with opponentMatchPct, gamePct, opponentGamePct } := by
  have hcounts : ∀ n ∈ [s.points, s.wins, s.losses, s.draws, s.gameWins, s.gameLosses, s.gameDraws],
      readCount (Value.int n).reading = .ok n :=
    fun n hn => readCount_int (h.counts n hn)
  exact Json.readRecord_of_holds
    (.cons (Json.readNat_intNumeral h.rank (by decide)) <| .cons (readId_int h.id) <|
      .cons (Json.readText_string s.name) <| .cons (hcounts s.points (by simp)) <|
      .cons (hcounts s.wins (by simp)) <| .cons (hcounts s.losses (by simp)) <|
      .cons (hcounts s.draws (by simp)) <| .cons (hcounts s.gameWins (by simp)) <|
      .cons (hcounts s.gameLosses (by simp)) <| .cons (hcounts s.gameDraws (by simp)) <|
      .cons hopponentMatch <| .cons hgame <| .cons hopponentGame <|
      .cons (Json.readBool_bool s.removed) .nil)
    (by decide) _

theorem Standing.read_toJson
    {s : Standing}
    (h : s.Fits) :
    ∃ s', Standing.read s.toJson.reading = .ok s' ∧ s.SameCounts s' ∧ s'.Fits := by
  obtain ⟨opponentMatchPct, hopponentMatch, hopponentMatchFits⟩ :=
    Json.readFloat_fraction h.opponentMatchPct
  obtain ⟨gamePct, hgame, hgameFits⟩ := Json.readFloat_fraction h.gamePct
  obtain ⟨opponentGamePct, hopponentGame, hopponentGameFits⟩ :=
    Json.readFloat_fraction h.opponentGamePct
  exact ⟨{ s with opponentMatchPct, gamePct, opponentGamePct },
    Standing.read_of_pcts h.countsFit hopponentMatch hgame hopponentGame, rfl,
    ⟨h.rank, h.id, h.counts, hopponentMatchFits, hgameFits, hopponentGameFits⟩⟩

theorem Standing.Writable.read_toJson
    {s : Standing}
    (h : s.Writable) :
    ∃ s', Standing.read s.toJson.reading = .ok s' ∧ s.SameCounts s' := by
  obtain ⟨opponentMatchPct, hopponentMatch⟩ := Json.readFloat_finite h.opponentMatchPct
  obtain ⟨gamePct, hgame⟩ := Json.readFloat_finite h.gamePct
  obtain ⟨opponentGamePct, hopponentGame⟩ := Json.readFloat_finite h.opponentGamePct
  exact ⟨{ s with opponentMatchPct, gamePct, opponentGamePct },
    Standing.read_of_pcts h.toCountsFit hopponentMatch hgame hopponentGame, rfl⟩

/-! ## The whole record -/

/-- A tournament is read when its standings are. -/
theorem Tournament.read_of_standings
    {t : Tournament}
    (h : t.OthersFit)
    {standings : List Standing}
    (hstandings : Json.readList Standing.read (Value.array (t.standings.map Standing.toJson)).reading =
      .ok standings) :
    Tournament.read t.toJson.reading = .ok { t with standings } :=
  Json.readRecord_of_holds
    (.cons (readPhase_toJson t.phase) <| .cons (readCount_int h.round) <|
      .cons (readId_int h.lastId) <|
      .cons (Json.readList_array_eq fun p hp => Player.read_toJson (h.players p hp)) <|
      .cons (Json.readList_array_eq fun table ht => Table.read_toJson (h.tables table ht)) <|
      .cons (Json.readList_array_eq fun p hp => Played.read_toJson (h.history p hp)) <|
      .cons hstandings .nil)
    (by decide) _

theorem Tournament.read_toJson
    {t : Tournament}
    (h : t.Fits) :
    ∃ t', Tournament.read t.toJson.reading = .ok t' ∧ t.SameCounts t' ∧ t'.Fits := by
  obtain ⟨standings, hread, hall⟩ := Json.readList_array
    (R := fun s s' => s.SameCounts s' ∧ s'.Fits)
    fun s hs => Standing.read_toJson (h.standings s hs)
  have hsame : List.Forall₂ Standing.SameCounts t.standings standings := hall.imp fun _ _ h => h.1
  have hfits : ∀ s ∈ standings, s.Fits := by
    intro s hs
    obtain ⟨i, hi, rfl⟩ := List.getElem_of_mem hs
    have hi' : i < t.standings.length := by rw [hall.length_eq]; exact hi
    exact (hall.get hi' hi).2
  exact ⟨{ t with standings }, Tournament.read_of_standings h.othersFit hread, ⟨rfl, hsame⟩,
    ⟨h.round, h.lastId, h.players, h.tables, h.history, hfits⟩⟩

theorem load_of_read
    {t t' : Tournament}
    (h : Tournament.read t.toJson.reading = .ok t') :
    Tournament.load t.toRecord = .ok t' := by
  rw [Tournament.load, Tournament.toRecord, Tournament.dump, Json.readBytes_render h]
  rfl

/-- The record of a tournament that fits is read as the tournament. -/
theorem load_toRecord
    {t : Tournament}
    (h : t.Fits) :
    ∃ t', Tournament.load t.toRecord = .ok t' ∧ t.SameCounts t' ∧ t'.Fits := by
  obtain ⟨t', hread, hsame, hfits⟩ := Tournament.read_toJson h
  exact ⟨t', load_of_read hread, hsame, hfits⟩

/-- The record of a tournament is read as the tournament, whatever finite doubles its percentages are. -/
theorem load_toRecord_of_finite
    {t : Tournament}
    (h : t.Writable) :
    ∃ t', Tournament.load t.toRecord = .ok t' ∧ t.SameCounts t' := by
  obtain ⟨standings, hread, hsame⟩ := Json.readList_array
    fun s hs => Standing.Writable.read_toJson (h.standings s hs)
  exact ⟨{ t with standings }, load_of_read (Tournament.read_of_standings h.toOthersFit hread),
    ⟨rfl, hsame⟩⟩

/-- Names with characters that are escaped, numbers at both ends of their ranges, and percentages that no
verb computes. -/
def extremes : Tournament where
  phase := .inProgress
  round := maxCount
  lastId := minId
  players := [⟨minId, "Ann \"the\\Ace\"\n", false⟩, ⟨maxId, "\x01é🂡", true⟩]
  tables := [⟨minId, maxId, some ⟨maxCount, 0, maxCount⟩⟩, ⟨maxId, byeId, none⟩]
  history := [⟨0, ⟨minId, maxId, none⟩⟩]
  standings :=
    [{ rank := maxRank, id := minId, name := "\t", points := maxCount, wins := maxCount, losses := maxCount,
       draws := maxCount, gameWins := maxCount, gameLosses := maxCount, gameDraws := maxCount,
       opponentMatchPct := 1.7976931348623157e308, gamePct := -0.0, opponentGamePct := -5e-324,
       removed := true }]

theorem load_toRecord_of_finite_extremes :
    extremes.Writable ∧ ∃ t', Tournament.load extremes.toRecord = .ok t' ∧ extremes.SameCounts t' := by
  have hlimits : IdFits minId ∧ IdFits maxId := ⟨⟨by decide, by decide⟩, ⟨by decide, by decide⟩⟩
  have hwritable : extremes.Writable := by
    refine ⟨⟨le_rfl, hlimits.1, ?_, ?_, ?_⟩, ?_⟩
    · simp [extremes, hlimits]
    · rintro table (_ | ⟨_, _ | ⟨_, ⟨⟩⟩⟩)
      · exact ⟨hlimits.1, hlimits.2, by rintro s ⟨⟩; exact ⟨le_rfl, Nat.zero_le _, le_rfl⟩⟩
      · exact ⟨hlimits.2, idFits_byeId, by rintro s ⟨⟩⟩
    · rintro p (_ | ⟨_, ⟨⟩⟩)
      exact ⟨Nat.zero_le _, hlimits.1, hlimits.2, by rintro s ⟨⟩⟩
    · rintro s (_ | ⟨_, ⟨⟩⟩)
      exact ⟨⟨le_rfl, hlimits.1, by simp⟩, by decide +kernel, by decide +kernel, by decide +kernel⟩
  exact ⟨hwritable, load_toRecord_of_finite hwritable⟩

end Swiss
end TournamentDesk
