import TournamentDesk.Proofs.Swiss.Rematches
import TournamentDesk.Proofs.Swiss.Tallies

/-!
# What a row counts

Every roster entry has one row in the standings. A row counts each decided table its player sits at once,
from the player's side: what counts for the one side counts against the other. Counts are exact until they
reach the largest number a record holds, and stay there.

* `Standing.Counts`: what the counts of a row are.
* `Column.entry_standings`: a count is a sum over all tables.
* `rows_count_tables`: every row counts the tables of its player, and nothing else changes.
-/

namespace TournamentDesk
namespace Swiss

/-- What a table adds to a sum for a player: something read off the score from the first side, or something
read off it from the second side. -/
def Table.adds (table : Table) (id : PlayerId) (fromFirst fromSecond : Score → Nat) : Nat :=
  match table.score with
  | none => 0
  | some s => if table.first = id then fromFirst s else if table.second = id then fromSecond s else 0

/-- The sum of what the tables of all rounds add for a player. -/
def Tournament.sumFor (t : Tournament) (id : PlayerId) (fromFirst fromSecond : Score → Nat) : Nat :=
  (t.allTables.map fun table => table.adds id fromFirst fromSecond).sum

/-- The counts of a row: sums over all tables at which its player has a result, cut off at the largest number
of 32 bits. -/
structure Standing.Counts (row : Standing) (t : Tournament) : Prop where
  wins : row.wins = min 4294967295 (t.sumFor row.id Score.won Score.lost)
  losses : row.losses = min 4294967295 (t.sumFor row.id Score.lost Score.won)
  draws : row.draws = min 4294967295 (t.sumFor row.id Score.drawn Score.drawn)
  /-- Three points for a win and one for a draw. -/
  points : row.points =
    min 4294967295 (t.sumFor row.id (fun s => 3 * s.won + s.drawn) fun s => 3 * s.lost + s.drawn)
  gameWins : row.gameWins = min 4294967295 (t.sumFor row.id Score.wins Score.losses)
  gameLosses : row.gameLosses = min 4294967295 (t.sumFor row.id Score.losses Score.wins)
  gameDraws : row.gameDraws = min 4294967295 (t.sumFor row.id Score.draws Score.draws)

/-! ## Sums over tables -/

theorem sum_sidesOf_eq
    (worth : Score → Nat)
    (tables : List Table)
    (id : PlayerId) :
    ((sidesOf tables id).map worth).sum =
      (tables.map fun table => ((table.sides id).map worth).sum).sum := by
  induction tables with
  | nil => rfl
  | cons table rest ih =>
      rw [sidesOf_cons, List.map_append, List.sum_append, ih, List.map_cons, List.sum_cons]

/-- A table at which no result is known gives no player a score. -/
theorem sidesOf_decidedTables
    (t : Tournament)
    (id : PlayerId) :
    sidesOf t.decidedTables id = sidesOf t.allTables id := by
  have hdecided (tables : List Table) :
      sidesOf (tables.filter fun table => table.score.isSome) id = sidesOf tables id := by
    induction tables with
    | nil => rfl
    | cons table rest ih =>
        obtain ⟨first, second, score⟩ := table
        cases score with
        | none => simpa using ih
        | some s => simp [ih]
  unfold Tournament.decidedTables Tournament.allTables
  rw [sidesOf, List.flatMap_append, sidesOf, List.flatMap_append]
  exact congrArg _ (hdecided t.tables)

theorem Table.adds_eq_sides
    (worth : Score → Nat)
    {table : Table}
    (hne : table.first ≠ table.second)
    (id : PlayerId) :
    ((table.sides id).map worth).sum = table.adds id worth fun s => worth s.reversed := by
  rw [table.sum_sides worth hne, Table.adds]
  cases table.score with
  | none => simp
  | some s =>
      by_cases hfirst : table.first = id
      · have hsecond : ¬ table.second = id := fun hsecond => hne (hfirst.trans hsecond.symm)
        simp [hfirst, hsecond]
      · simp [hfirst]

section Sides

variable
  {t : Tournament}
  (hsides : ∀ table ∈ t.allTables, table.first ≠ table.second)

include hsides

/-- A count in the standings is a sum over all tables, of what a match adds from the one side or the other. -/
theorem Column.entry_standings
    (c : Column)
    {row : Standing}
    (hrow : row ∈ t.updateStandings.standings)
    {fromFirst fromSecond : Score → Nat}
    (hfirst : ∀ s, c.worth s = fromFirst s)
    (hsecond : ∀ s, c.worth s.reversed = fromSecond s) :
    c.entry row = min 4294967295 (t.sumFor row.id fromFirst fromSecond) := by
  obtain rfl : c.worth = fromFirst := funext hfirst
  obtain rfl : (fun s : Score => c.worth s.reversed) = fromSecond := funext hsecond
  obtain ⟨p, hp, n, rfl⟩ := exists_of_mem_standings hrow
  have htables : ∀ table ∈ t.allTables,
      ((table.sides p.id).map c.worth).sum = table.adds p.id c.worth fun s => c.worth s.reversed :=
    fun table htable => Table.adds_eq_sides c.worth (hsides table htable) p.id
  calc c.entry { Tournament.row t.tallies p with rank := n }
      = min ((sidesOf t.decidedTables p.id).map c.worth).sum maxCount := by
        rw [c.rank, c.entry_row hp]
    _ = min 4294967295 ((sidesOf t.allTables p.id).map c.worth).sum := by
        rw [sidesOf_decidedTables, Nat.min_comm]
        rfl
    _ = min 4294967295 (t.sumFor p.id c.worth fun s => c.worth s.reversed) := by
        rw [sum_sidesOf_eq, List.map_congr_left htables]
        rfl

theorem counts_of_mem_standings
    {row : Standing}
    (hrow : row ∈ t.updateStandings.standings) :
    row.Counts t where
  wins := Column.wins.entry_standings hsides hrow (fun _ => rfl) Score.won_reversed
  losses := Column.losses.entry_standings hsides hrow (fun _ => rfl) fun _ => rfl
  draws := Column.draws.entry_standings hsides hrow (fun _ => rfl) Score.drawn_reversed
  points := Column.points.entry_standings hsides hrow Score.points_eq fun s => s.reversed.points_eq.trans (by simp)
  gameWins := Column.gameWins.entry_standings hsides hrow (fun _ => rfl) fun _ => rfl
  gameLosses := Column.gameLosses.entry_standings hsides hrow (fun _ => rfl) fun _ => rfl
  gameDraws := Column.gameDraws.entry_standings hsides hrow (fun _ => rfl) fun _ => rfl

end Sides

/-! ## All rows -/

/-- Every roster entry has one row, with its number, its name and whether the player was removed. The row counts
the tables of the player, each from the player's side. Nothing but the standings changes, and to compute them
again changes nothing at all. -/
theorem rows_count_tables
    {t : Tournament}
    (hsides : ∀ table ∈ t.allTables, table.first ≠ table.second) :
    let after := t.updateStandings
    (after.standings.map fun row => (row.id, row.name, row.removed)).Perm
        (t.players.map fun p => (p.id, p.name, p.removed)) ∧
      (∀ row ∈ after.standings, row.Counts t) ∧
      { after with standings := t.standings } = t ∧
      after.updateStandings = after := by
  refine ⟨?_, ?_, rfl, rfl⟩
  · exact map_standings_perm t fun _ _ => rfl
  · intro row hrow
    exact counts_of_mem_standings hsides hrow

/-- Two players who met twice, in matches of more games than anybody plays, and meet again. -/
def manyGames : Tournament :=
  { Tournament.empty with
    phase := .inProgress
    round := 3
    lastId := 2
    players := [⟨1, "Ann", false⟩, ⟨2, "Bob", true⟩]
    tables := [.fresh 1 2]
    history := [⟨1, ⟨1, 2, some ⟨4294967295, 1, 7⟩⟩⟩, ⟨2, ⟨2, 1, some ⟨0, 4294967295, 0⟩⟩⟩] }

theorem rows_count_tables_manyGames :
    (∀ table ∈ manyGames.allTables, table.first ≠ table.second) ∧
      ∃ row ∈ manyGames.updateStandings.standings,
        row.id = 1 ∧ row.name = "Ann" ∧ row.wins = 2 ∧ row.losses = 0 ∧ row.points = 6 ∧
          row.gameWins = 4294967295 ∧ row.gameLosses = 1 ∧ row.gameDraws = 7 := by
  have hsides : ∀ table ∈ manyGames.allTables, table.first ≠ table.second := by decide
  obtain ⟨hperm, hcounts, -, -⟩ := rows_count_tables hsides
  have hann : ((1 : PlayerId), "Ann", false) ∈
      manyGames.updateStandings.standings.map fun row => (row.id, row.name, row.removed) :=
    hperm.symm.subset List.mem_cons_self
  obtain ⟨row, hrow, hann⟩ := List.mem_map.1 hann
  obtain ⟨hid, hname, -⟩ : row.id = 1 ∧ row.name = "Ann" ∧ row.removed = false := by simpa using hann
  have hrowCounts := hcounts row hrow
  refine ⟨hsides, row, hrow, hid, hname, ?_, ?_, ?_, ?_, ?_, ?_⟩
  · rw [hrowCounts.wins, hid]
    rfl
  · rw [hrowCounts.losses, hid]
    rfl
  · rw [hrowCounts.points, hid]
    rfl
  · rw [hrowCounts.gameWins, hid]
    rfl
  · rw [hrowCounts.gameLosses, hid]
    rfl
  · rw [hrowCounts.gameDraws, hid]
    rfl

end Swiss
end TournamentDesk
