import TournamentDesk.Proofs.Swiss.Choice
import TournamentDesk.Proofs.Swiss.Storable
import TournamentDesk.Proofs.Swiss.Tallies

/-!
# Points of the seeding and points of the standings

A round is paired by the points of finished rounds, which are counted apart from the standings. As long as no
table of the current round counts, both counts sum up the same scores, and a few hundred million tables do not
reach the largest number a record holds. So the order in which the players are paired never contradicts the
points that the standings show.

* `pointsIn_eq`: the points of finished rounds, score by score.
* `Reachable.counts_fit`: how long the counters of a tournament stay in the ranges of its record.
* `field_by_points`: the field of a round goes by points.
* `seeding_follows_standings`: the points of the standings are those of the seeding.
-/

namespace TournamentDesk
namespace Swiss

/-! ## Points, score by score -/

theorem total_eq_sum (ns : List Nat) : total ns = ns.sum :=
  rfl

theorem Table.pointsFor_eq
    (table : Table)
    (id : PlayerId) :
    table.pointsFor id = ((table.sides id).map Score.points).sum := by
  rw [Table.pointsFor, Table.sides, total_eq_sum]
  induction table.seats.filter fun seat => seat = id with
  | nil => rfl
  | cons seat rest ih =>
      rw [List.map_cons, List.sum_cons, ih, List.filterMap_cons]
      cases table.scoreFor seat with
      | none => simp
      | some s => simp

/-- The points of finished rounds are those of the scores of a player there. -/
theorem pointsIn_eq
    (history : List Played)
    (id : PlayerId) :
    pointsIn history id = ((sidesOf (history.map Played.table) id).map Score.points).sum := by
  rw [pointsIn, total_eq_sum]
  induction history with
  | nil => rfl
  | cons r rest ih =>
      rw [List.map_cons, List.sum_cons, ih, r.table.pointsFor_eq, List.map_cons, sidesOf_cons, List.map_append,
        List.sum_append]

theorem Score.points_le (s : Score) : s.points ≤ 3 := by
  have := s.points_eq
  have := s.won_add_lost_add_drawn
  omega

theorem Table.pointsFor_le
    (table : Table)
    (id : PlayerId) :
    table.pointsFor id ≤ 6 := by
  have hsides : (table.sides id).length ≤ 2 :=
    (List.length_filterMap_le _ _).trans (List.length_filter_le _ _)
  have hpoints : ∀ n ∈ (table.sides id).map Score.points, n ≤ 3 := by
    intro n hn
    obtain ⟨s, -, rfl⟩ := List.mem_map.1 hn
    exact s.points_le
  have hsum := List.sum_le_card_nsmul _ 3 hpoints
  rw [table.pointsFor_eq]
  simp only [List.length_map, smul_eq_mul] at hsum
  omega

theorem pointsIn_le
    (history : List Played)
    (id : PlayerId) :
    pointsIn history id ≤ history.length * 6 := by
  have htables : ∀ n ∈ history.map fun r => r.table.pointsFor id, n ≤ 6 := by
    intro n hn
    obtain ⟨r, -, rfl⟩ := List.mem_map.1 hn
    exact r.table.pointsFor_le id
  have hsum := List.sum_le_card_nsmul _ 6 htables
  rw [pointsIn, total_eq_sum]
  simpa using hsum

theorem pointsIn_le_maxCount
    {history : List Played}
    (hfew : history.length < 700000000)
    (id : PlayerId) :
    pointsIn history id ≤ maxCount := by
  have hle := pointsIn_le history id
  unfold maxCount
  omega

/-- With fewer than 700 million finished tables, and no more players than a record has numbers for, no counter of
a tournament leaves the ranges of its record: the number of the round, the last number of a player and the points
by which a round is paired. -/
theorem Reachable.counts_fit
    {t : Tournament}
    (h : Reachable t)
    (hfew : t.history.length < 700000000)
    (hplayers : t.players.length ≤ maxId) :
    t.InRange ∧ ∀ id, pointsIn t.history id ≤ maxCount :=
  ⟨h.coherent.inRange (hfew.trans (by decide)) hplayers, pointsIn_le_maxCount hfew⟩

/-! ## The field and the standings -/

/-- A field goes by the points of finished rounds. -/
theorem field_by_points
    (t : Tournament)
    (draw : Draw) :
    (t.field draw).Pairwise fun a b => pointsIn t.history b ≤ pointsIn t.history a := by
  unfold Tournament.field
  split
  · next hnone =>
    -- before the first round nobody has points
    rw [List.isEmpty_iff.1 hnone]
    exact List.pairwise_of_forall fun _ _ => Nat.le_refl 0
  · refine (seeded_pairwise t.history t.activeIds).imp ?_
    rintro a b (hless | ⟨hsame, -⟩)
    · exact hless.le
    · exact hsame.ge

/-- As long as the current round has no tables, a row shows the points of finished rounds. -/
theorem points_of_mem_standings
    {t : Tournament}
    (htables : t.tables = [])
    (hfew : t.history.length < 700000000)
    {row : Standing}
    (hrow : row ∈ t.updateStandings.standings) :
    row.points = pointsIn t.history row.id := by
  obtain ⟨p, hp, n, rfl⟩ := exists_of_mem_standings hrow
  have hdecided : t.decidedTables = t.history.map Played.table := by
    rw [Tournament.decidedTables, htables]
    exact List.append_nil _
  calc (Tournament.row t.tallies p).points
      = min ((sidesOf t.decidedTables p.id).map Score.points).sum maxCount := Column.points.entry_row hp
    _ = min (pointsIn t.history p.id) maxCount := by rw [hdecided, pointsIn_eq]
    _ = pointsIn t.history p.id := Nat.min_eq_left (pointsIn_le_maxCount hfew p.id)

/-- Without tables in the current round and with less than 700 million in finished ones, every player has a row,
and it shows the points by which the next round is paired. So nobody is paired behind somebody for whom the
standings show fewer points. -/
theorem seeding_follows_standings
    {t : Tournament}
    (htables : t.tables = [])
    (hfew : t.history.length < 700000000) :
    let rows := t.updateStandings.standings
    (∀ p ∈ t.players, ∃ row ∈ rows, row.id = p.id ∧ row.name = p.name) ∧
      (∀ row ∈ rows, row.points = pointsIn t.history row.id) ∧
      (∀ id, pointsIn t.history id ≤ maxCount) ∧
      ∀ draw, (t.field draw).Pairwise fun a b =>
        ∀ rowA ∈ rows, ∀ rowB ∈ rows, rowA.id = a → rowB.id = b → rowB.points ≤ rowA.points := by
  intro rows
  have hpoints : ∀ row ∈ rows, row.points = pointsIn t.history row.id :=
    fun _ hrow => points_of_mem_standings htables hfew hrow
  refine ⟨?_, hpoints, pointsIn_le_maxCount hfew, ?_⟩
  · intro p hp
    have hperm := map_standings_perm t (f := fun row => (row.id, row.name)) fun _ _ => rfl
    have hmem : (p.id, p.name) ∈ rows.map fun row => (row.id, row.name) :=
      hperm.symm.subset (List.mem_map_of_mem hp)
    obtain ⟨row, hrow, heq⟩ := List.mem_map.1 hmem
    exact ⟨row, hrow, (Prod.mk.inj heq).1, (Prod.mk.inj heq).2⟩
  · intro draw
    refine (field_by_points t draw).imp ?_
    rintro a b hle rowA hA rowB hB rfl rfl
    rw [hpoints rowA hA, hpoints rowB hB]
    exact hle

/-- Two players after a draw, a bye, a match without a result and one against somebody who is not on the roster. -/
def oddHistory : Tournament :=
  { Tournament.empty with
    phase := .inProgress
    round := 4
    lastId := 2
    players := [⟨1, "Ann", false⟩, ⟨2, "Bob", false⟩]
    history := [⟨1, ⟨1, 2, some ⟨1, 1, 1⟩⟩⟩, ⟨2, .bye 2⟩, ⟨2, ⟨1, 2, none⟩⟩, ⟨3, ⟨1, 9, some ⟨0, 2, 0⟩⟩⟩] }

theorem seeding_follows_standings_oddHistory :
    oddHistory.tables = [] ∧
      oddHistory.history.length < 700000000 ∧
      (∃ row ∈ oddHistory.updateStandings.standings, row.id = 2 ∧ row.points = 4) ∧
      ∃ row ∈ oddHistory.updateStandings.standings, row.id = 1 ∧ row.points = 1 := by
  have hfew : oddHistory.history.length < 700000000 := by decide
  obtain ⟨hall, hpoints, -, -⟩ := seeding_follows_standings (t := oddHistory) rfl hfew
  obtain ⟨bob, hbob, hbobId, -⟩ := hall ⟨2, "Bob", false⟩ (by simp [oddHistory])
  obtain ⟨ann, hann, hannId, -⟩ := hall ⟨1, "Ann", false⟩ (by simp [oddHistory])
  refine ⟨rfl, hfew, ⟨bob, hbob, hbobId, ?_⟩, ann, hann, hannId, ?_⟩
  · rw [hpoints bob hbob, hbobId]
    rfl
  · rw [hpoints ann hann, hannId]
    rfl

end Swiss
end TournamentDesk
