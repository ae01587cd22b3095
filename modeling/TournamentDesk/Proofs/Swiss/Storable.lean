import TournamentDesk.Proofs.Swiss.Coherence
import TournamentDesk.Proofs.Swiss.Percentages
import TournamentDesk.Proofs.Swiss.Record

/-!
# Tournaments that can be stored

The numbers of a coherent tournament fit its record as long as the number of the round and the last
number of a player do. Nothing that verbs do, and no way through the record, leads out of the
tournaments that can be stored.

* `Storable.step`: every verb keeps a tournament storable.
* `Storable.load`: what is read out of the record of a storable tournament is storable, and the same but
  for the percentages.
-/

namespace TournamentDesk
namespace Swiss

open Decimal (Fraction)

/-- A tournament short of the end of the integer ranges. -/
structure Tournament.InRange (t : Tournament) : Prop where
  round : t.round ≤ maxCount
  lastId : t.lastId ≤ maxId

/-- A coherent tournament whose standings can be written. -/
structure Storable (t : Tournament) : Prop where
  coherent : Coherent t
  standings : t.InRange → ∀ s ∈ t.standings, s.Fits

/-! ## Short of the end -/

/-- Each finished round has left a table behind. -/
theorem Coherent.round_le
    {t : Tournament}
    (h : Coherent t) :
    t.round ≤ t.history.length + 1 := by
  have hsub : List.range' 1 (t.round - 1) ⊆ t.history.map Played.round := by
    intro n hn
    rw [List.mem_range'_1] at hn
    obtain ⟨r, hr, rfl⟩ := (h.past.occurring n).2 (by omega)
    exact List.mem_map_of_mem hr
  have hnodup : (List.range' 1 (t.round - 1)).Nodup := List.nodup_range'
  have hle := (hnodup.subperm hsub).length_le
  rw [List.length_range', List.length_map] at hle
  omega

/-- With fewer finished tables than a record can count, and no more players than it has numbers for, a tournament
is short of the end of the integer ranges. -/
theorem Coherent.inRange
    {t : Tournament}
    (h : Coherent t)
    (hhistory : t.history.length < maxCount)
    (hplayers : t.players.length ≤ maxId) :
    t.InRange := by
  refine ⟨?_, ?_⟩
  · exact h.round_le.trans hhistory
  · rw [h.roster.last]
    exact hplayers

/-! ## Players and tables -/

theorem Coherent.idFits
    {t : Tournament}
    (h : Coherent t)
    (hrange : t.InRange)
    {id : PlayerId}
    (hid : id ∈ t.ids) :
    IdFits id := by
  obtain ⟨hlow, hhigh⟩ := (h.roster.mem_ids_iff id).1 hid
  refine ⟨?_, hhigh.trans hrange.lastId⟩
  exact le_trans (by decide) hlow

theorem score_fits
    {s : Score}
    (h : s.games ≤ 99) :
    s.Fits := by
  unfold Score.games at h
  constructor <;> unfold maxCount <;> omega

theorem RoundCoherent.fits
    {ids : List PlayerId}
    {tables : List Table}
    (h : RoundCoherent ids tables)
    (hids : ∀ id ∈ ids, IdFits id)
    {table : Table}
    (htable : table ∈ tables) :
    table.Fits := by
  have hseat : ∀ id ∈ table.occupants, IdFits id :=
    fun id hid => hids id (h.known id (mem_occupied.2 ⟨table, htable, hid⟩))
  cases hbye : table.isBye with
  | true =>
      have hsecond : table.second = byeId := by simpa [Table.isBye] using hbye
      refine ⟨hseat _ (by simp [Table.occupants, hbye]), ?_, ?_⟩
      · rw [hsecond]
        exact idFits_byeId
      · intro s hs
        rw [h.byeScore table htable hbye] at hs
        cases hs
        exact score_fits (by decide)
  | false =>
      rw [Table.occupants_of_not_isBye hbye] at hseat
      refine ⟨hseat _ (by simp [Table.seats]), hseat _ (by simp [Table.seats]), ?_⟩
      intro s hs
      exact score_fits (h.games table htable hbye s hs).2

/-- The numbers of a storable tournament fit its record. -/
theorem Storable.fits
    {t : Tournament}
    (h : Storable t)
    (hrange : t.InRange) :
    t.Fits := by
  have hids : ∀ id ∈ t.ids, IdFits id := fun id hid => h.coherent.idFits hrange hid
  have hlast : IdFits t.lastId := by
    refine ⟨?_, hrange.lastId⟩
    rw [h.coherent.roster.last]
    exact le_trans (by decide) (Int.natCast_nonneg t.players.length)
  refine ⟨hrange.round, hlast, ?_, ?_, ?_, h.standings hrange⟩
  · intro p hp
    exact hids p.id (List.mem_map_of_mem hp)
  · intro table htable
    exact h.coherent.current.fits hids htable
  · intro p hp
    constructor
    · exact (h.coherent.past.round_lt hp).2.le.trans hrange.round
    · refine (h.coherent.past.each p.round).fits hids ?_
      exact List.mem_map_of_mem (List.mem_filter.2 ⟨hp, by simp⟩)

/-! ## Standings -/

theorem tallies_lookup_sound
    {t : Tournament}
    {id : PlayerId}
    {tally : Tally}
    (h : t.tallies.lookup id = some tally) :
    tally.Sound := by
  obtain ⟨before, after, hsplit, -⟩ := List.lookup_eq_some_iff.1 h
  have hmem : (id, tally) ∈ t.tallies := by
    rw [hsplit]
    simp
  obtain ⟨p, -, hp⟩ := List.mem_map.1 hmem
  cases hp
  exact Tally.of_sound _ _

theorem mean_tallies_fraction
    (t : Tournament)
    (ids : List PlayerId)
    {pct : Tally → Float}
    (hpct : ∀ tally : Tally, tally.Sound → Fraction (pct tally)) :
    Fraction (mean ((ids.filterMap fun id => t.tallies.lookup id).map pct)) := by
  refine mean_fraction ?_
  intro x hx
  obtain ⟨tally, htally, rfl⟩ := List.mem_map.1 hx
  obtain ⟨id, -, hlookup⟩ := List.mem_filterMap.1 htally
  exact hpct tally (tallies_lookup_sound hlookup)

theorem row_fits
    (t : Tournament)
    {p : Player}
    (hp : IdFits p.id) :
    (Tournament.row t.tallies p).Fits := by
  have hsound : ((t.tallies.lookup p.id).getD Tally.zero).Sound := by
    cases hlookup : t.tallies.lookup p.id with
    | none => exact Tally.zero_sound
    | some tally => exact tallies_lookup_sound hlookup
  refine ⟨Nat.zero_le _, hp, ?_, ?_, Tally.gamePct_fraction hsound, ?_⟩
  · intro n hn
    refine hsound.counts n ?_
    simp only [Tournament.row, List.mem_cons, List.not_mem_nil, or_false] at hn ⊢
    tauto
  · exact mean_tallies_fraction t _ fun _ h => Tally.matchPct_fraction h
  · exact mean_tallies_fraction t _ fun _ h => Tally.gamePct_fraction h

/-- Standings fit the record whose players they rank. -/
theorem computeStandings_fits
    {t : Tournament}
    (h : Coherent t)
    (hrange : t.InRange) :
    ∀ s ∈ t.computeStandings, s.Fits := by
  intro s hs
  unfold Tournament.computeStandings withRanks at hs
  obtain ⟨i, hi, rfl⟩ := List.mem_mapIdx.1 hs
  have hrow := List.mem_mergeSort.1 (List.getElem_mem hi)
  obtain ⟨p, hp, hrow⟩ := List.mem_map.1 hrow
  have hfits := row_fits t (h.idFits hrange (List.mem_map_of_mem hp))
  rw [hrow] at hfits
  refine ⟨?_, hfits.id, hfits.counts, hfits.opponentMatchPct, hfits.gamePct, hfits.opponentGamePct⟩
  -- there are no more ranks than players, and no more players than numbers for them
  have hlength : i < t.players.length := by
    simpa using hi
  have hlast := hrange.lastId
  rw [h.roster.last] at hlast
  unfold maxId at hlast
  simp only [maxRank]
  lia

/-! ## Verbs -/

theorem Storable.empty : Storable Tournament.empty :=
  ⟨Coherent.empty, by simp [Tournament.empty]⟩

/-- Every verb keeps a tournament storable. -/
theorem Storable.step
    {t : Tournament}
    (h : Storable t)
    {draw : Draw}
    (hdraw : draw.Fair)
    {verb : Verb}
    {s : Step}
    (heffect : Effect t draw verb s) :
    Storable s.tournament := by
  have hcoherent := h.coherent.step hdraw heffect
  refine ⟨hcoherent, ?_⟩
  intro hrange
  cases heffect with
  | added visible unfinished new =>
      refine h.standings ⟨hrange.round, ?_⟩
      exact le_trans (by simp) hrange.lastId
  | removed found number active => exact h.standings ⟨hrange.round, hrange.lastId⟩
  | started phase drawn =>
      refine h.standings ⟨?_, hrange.lastId⟩
      rw [h.coherent.unstarted.1 phase]
      exact Nat.zero_le _
  | paired phase undecided drawn => exact h.standings ⟨hrange.round, hrange.lastId⟩
  | closed phase seated decided =>
      refine h.standings ⟨?_, hrange.lastId⟩
      exact (Nat.le_succ t.round).trans hrange.round
  | recorded phase some_game few_games known found first_table involved no_bye =>
      exact h.standings ⟨hrange.round, hrange.lastId⟩
  | ranked => exact computeStandings_fits h.coherent ⟨hrange.round, hrange.lastId⟩
  | finished phase => exact h.standings ⟨hrange.round, hrange.lastId⟩

/-! ## The record -/

/-- A record that can be read is that of a tournament in range. -/
theorem inRange_of_load
    {t t' : Tournament}
    (h : Tournament.load t.toRecord = .ok t') :
    t.InRange := by
  have hread : ∃ t', Tournament.read t.toJson.reading = .ok t' := by
    rw [Tournament.load, Tournament.toRecord, Tournament.dump] at h
    cases hbytes : Json.readBytes Tournament.read (t.toJson.render .compact).toUTF8 with
    | error fault =>
        rw [hbytes] at h
        cases h
    | ok t' => exact ⟨t', Json.readBytes_render_eq_ok hbytes⟩
  obtain ⟨t', hread⟩ := hread
  obtain ⟨vs, hholds⟩ := Json.holds_of_readRecord (by decide) rfl hread
  -- the number of the round and the last number are the second and the third member
  cases hholds with
  | absent habsent => cases habsent
  | cons _ hholds =>
    cases hholds with
    | absent habsent => cases habsent
    | cons hround hholds =>
      cases hholds with
      | absent habsent => cases habsent
      | cons hlast hholds => exact ⟨(Json.readNat_eq_ok hround).2, (Json.readInt_eq_ok hlast).2.2⟩

theorem Storable.load
    {t t' : Tournament}
    (h : Storable t)
    (hload : Tournament.load t.toRecord = .ok t') :
    t.SameCounts t' ∧ Storable t' := by
  obtain ⟨u, hu, hsame, hfits⟩ := load_toRecord (h.fits (inRange_of_load hload))
  obtain rfl : t' = u := Except.ok.inj (hload.symm.trans hu)
  refine ⟨hsame, ?_, fun _ => hfits.standings⟩
  rw [hsame.others]
  exact h.coherent.withRoster h.coherent.roster (fun _ hid => hid) rfl rfl rfl rfl

theorem Storable.load_eq_ok
    {t : Tournament}
    (h : Storable t)
    (hrange : t.InRange) :
    ∃ t', Tournament.load t.toRecord = .ok t' := by
  obtain ⟨t', hload, -⟩ := load_toRecord (h.fits hrange)
  exact ⟨t', hload⟩

end Swiss
end TournamentDesk
