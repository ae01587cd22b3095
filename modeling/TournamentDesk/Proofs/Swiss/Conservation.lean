import Mathlib.Algebra.BigOperators.Ring.List
import Mathlib.Algebra.Order.BigOperators.Group.List
import TournamentDesk.Proofs.Swiss.Tallies

/-!
# Standings conserve results

Nobody sits at two tables of a round, and a match has few games. So below some forty million rounds no
count reaches the largest number a record holds, and a column of the standings sums up exactly what all
players have from all tables. A match is seen from both of its sides there, a bye from one: what one
player wins the other one loses, and only byes are won for nothing.

* `Coherent.sum_column`: the sum of a column of the standings, table by table.
* `standings_conserve_results`: what the columns of the standings sum up to.
-/

namespace TournamentDesk
namespace Swiss

/-- Whether a match ended in a draw. A bye is no match. -/
def Table.isDrawn (table : Table) : Bool :=
  !table.isBye && table.score.any fun s => s.wins = s.losses

/-- The drawn games of a match. -/
def Table.drawnGames (table : Table) : Nat :=
  (table.score.map Score.draws).getD 0

/-- What a table adds to a column, over both seats. The second seat of a bye is empty. -/
def Column.given (c : Column) (table : Table) : Nat :=
  match table.score with
  | none => 0
  | some s => c.worth s + if table.isBye then 0 else c.worth s.reversed

/-! ## Sums -/

theorem sum_map_one_if
    {α : Type}
    (p : α → Bool)
    (l : List α) :
    (l.map fun a => if p a then 1 else 0).sum = l.countP p := by
  induction l with
  | nil => rfl
  | cons a rest ih => rw [List.map_cons, List.sum_cons, ih, List.countP_cons, Nat.add_comm]

theorem sum_map_if_eq
    {α : Type}
    [DecidableEq α]
    (l : List α)
    (a : α)
    (n : Nat) :
    (l.map fun b => if a = b then n else 0).sum = l.count a * n := by
  induction l with
  | nil => simp
  | cons b rest ih =>
      rw [List.map_cons, List.sum_cons, ih, List.count_cons]
      by_cases hab : a = b
      · simp [hab, Nat.add_mul, Nat.add_comm]
      · simp [hab, Ne.symm hab]

/-- What all players have from all tables, table by table. -/
theorem sum_sidesOf
    (worth : Score → Nat)
    (ids : List PlayerId)
    (tables : List Table) :
    (ids.map fun id => ((sidesOf tables id).map worth).sum).sum =
      (tables.map fun table => (ids.map fun id => ((table.sides id).map worth).sum).sum).sum := by
  induction tables with
  | nil => simp
  | cons table rest ih =>
      simp only [sidesOf_cons, List.map_append, List.sum_append, List.map_cons, List.sum_cons]
      rw [List.sum_map_add, ih]

/-! ## Decided tables -/

/-- A table that counts has a result of a few games, and a bye the result it always has. -/
theorem Coherent.score_of_decided
    {t : Tournament}
    (h : Coherent t)
    {table : Table}
    (htable : table ∈ t.decidedTables) :
    ∃ tables s,
      RoundCoherent t.ids tables ∧ table ∈ tables ∧ table.score = some s ∧ s.games ≤ 99 ∧
        (table.isBye = true → s = Score.bye) := by
  obtain ⟨tables, hround, hmem, hsome⟩ :
      ∃ tables, RoundCoherent t.ids tables ∧ table ∈ tables ∧ table.score.isSome = true := by
    rcases List.mem_append.1 htable with hpast | hcurrent
    · obtain ⟨r, hr, rfl⟩ := List.mem_map.1 hpast
      refine ⟨tablesOf t.history r.round, h.past.each _, ?_, h.past.decided r hr⟩
      exact List.mem_map_of_mem (List.mem_filter.2 ⟨hr, by simp⟩)
    · obtain ⟨hmem, hsome⟩ := List.mem_filter.1 hcurrent
      exact ⟨t.tables, h.current, hmem, hsome⟩
  obtain ⟨s, hs⟩ := Option.isSome_iff_exists.1 hsome
  refine ⟨tables, s, hround, hmem, hs, ?_, ?_⟩
  · cases hbye : table.isBye with
    | true =>
        obtain rfl : s = Score.bye := Option.some.inj (hs.symm.trans (hround.byeScore table hmem hbye))
        decide
    | false => exact (hround.games table hmem hbye s hs).2
  · intro hbye
    exact Option.some.inj (hs.symm.trans (hround.byeScore table hmem hbye))

/-- At a table of a round sit two players of the roster, or one and the bye. -/
theorem RoundCoherent.count_seats
    {players : List Player}
    {lastId : PlayerId}
    (hroster : RosterCoherent players lastId)
    {tables : List Table}
    (hround : RoundCoherent (players.map Player.id) tables)
    {table : Table}
    (hmem : table ∈ tables) :
    (players.map Player.id).count table.first = 1 ∧
      (players.map Player.id).count table.second = (if table.isBye then 0 else 1) ∧
      table.first ≠ table.second := by
  have hcount : ∀ id ∈ table.occupants, (players.map Player.id).count id = 1 := by
    intro id hid
    exact List.count_eq_one_of_mem hroster.ids_nodup
      (hround.known id (mem_occupied.2 ⟨table, hmem, hid⟩))
  have honce : table.occupants.Nodup := (List.nodup_flatMap.1 hround.once).1 table hmem
  cases hbye : table.isBye with
  | true =>
      rw [Table.occupants, if_pos hbye] at hcount
      have hfirst := hcount table.first (by simp)
      have hsecond : (players.map Player.id).count table.second = 0 := by
        rw [table.isBye_iff.1 hbye]
        exact List.count_eq_zero_of_not_mem hroster.byeId_not_mem
      refine ⟨hfirst, hsecond, fun hsame => ?_⟩
      rw [hsame, hsecond] at hfirst
      cases hfirst
  | false =>
      rw [Table.occupants_of_not_isBye hbye] at hcount honce
      refine ⟨hcount table.first (by simp [Table.seats]), hcount table.second (by simp [Table.seats]), ?_⟩
      simpa [Table.seats] using honce

/-- Over all players, a table adds what both of its seats add. -/
theorem Column.sum_table
    (c : Column)
    {players : List Player}
    {lastId : PlayerId}
    (hroster : RosterCoherent players lastId)
    {tables : List Table}
    (hround : RoundCoherent (players.map Player.id) tables)
    {table : Table}
    (hmem : table ∈ tables) :
    ((players.map Player.id).map fun id => ((table.sides id).map c.worth).sum).sum =
      c.given table := by
  obtain ⟨hfirst, hsecond, hne⟩ := hround.count_seats hroster hmem
  simp only [Table.sum_sides c.worth hne]
  rw [List.sum_map_add, sum_map_if_eq, sum_map_if_eq, hfirst, hsecond, Column.given]
  cases table.score with
  | none => simp
  | some s => cases table.isBye <;> simp

/-! ## Few games -/

theorem Table.sides_length_le
    (table : Table)
    {id : PlayerId}
    (hid : id ≠ byeId) :
    (table.sides id).length ≤ table.occupants.count id := by
  have hseats : (table.sides id).length ≤ table.seats.count id := by
    rw [Table.sides, List.count_eq_length_filter]
    exact List.length_filterMap_le _ _
  unfold Table.occupants
  split
  · next hbye =>
    rw [Table.seats, table.isBye_iff.1 hbye] at hseats
    simpa [List.count_cons, Ne.symm hid] using hseats
  · exact hseats

theorem sidesOf_length_le
    (tables : List Table)
    {id : PlayerId}
    (hid : id ≠ byeId) :
    (sidesOf tables id).length ≤ (occupied tables).count id := by
  induction tables with
  | nil => exact Nat.zero_le _
  | cons table rest ih =>
      rw [sidesOf_cons, List.length_append, occupied_cons, List.count_append]
      exact Nat.add_le_add (table.sides_length_le hid) ih

/-- The seats of a player in finished rounds, round by round. -/
theorem count_occupied_history
    {history : List Played}
    {n : Nat}
    (h : ∀ r ∈ history, r.round < n)
    (id : PlayerId) :
    (occupied (history.map Played.table)).count id =
      ((List.range n).map fun k => (occupied (tablesOf history k)).count id).sum := by
  induction history with
  | nil => simp [tablesOf]
  | cons r rest ih =>
      have hrest := ih fun r hr => h r (List.mem_cons_of_mem _ hr)
      have hround : (List.range n).count r.round = 1 :=
        List.count_eq_one_of_mem List.nodup_range (List.mem_range.2 (h r List.mem_cons_self))
      have hsplit (k : Nat) :
          (occupied (tablesOf (r :: rest) k)).count id =
            (if r.round = k then r.table.occupants.count id else 0) +
              (occupied (tablesOf rest k)).count id := by
        by_cases hk : r.round = k <;> simp [tablesOf, hk]
      simp only [hsplit]
      rw [List.sum_map_add, sum_map_if_eq, hround, ← hrest, List.map_cons, occupied_cons,
        List.count_append, Nat.one_mul]

/-- A player has at most one score in each round. -/
theorem Coherent.sides_length_le
    {t : Tournament}
    (h : Coherent t)
    {id : PlayerId}
    (hid : id ≠ byeId) :
    (sidesOf t.decidedTables id).length ≤ t.round + 1 := by
  have hpast : (occupied (t.history.map Played.table)).count id ≤ t.round := by
    rw [count_occupied_history (fun r hr => (h.past.round_lt hr).2)]
    refine (List.sum_le_card_nsmul _ 1 ?_).trans (by simp)
    intro k hk
    obtain ⟨n, -, rfl⟩ := List.mem_map.1 hk
    exact List.nodup_iff_count_le_one.1 (h.past.each n).once id
  have hcurrent : (occupied (t.tables.filter fun table => table.score.isSome)).count id ≤ 1 := by
    have hsublist : (t.tables.filter fun table => table.score.isSome).Sublist t.tables :=
      List.filter_sublist
    exact ((hsublist.flatMap _).count_le id).trans (List.nodup_iff_count_le_one.1 h.current.once id)
  refine (sidesOf_length_le _ hid).trans ?_
  rw [Tournament.decidedTables, occupied_append, List.count_append]
  exact Nat.add_le_add hpast hcurrent

theorem Table.games_of_sides
    {table : Table}
    {id : PlayerId}
    {s : Score}
    (h : s ∈ table.sides id) :
    ∃ score, table.score = some score ∧ s.games = score.games := by
  obtain ⟨seat, -, hseat⟩ := List.mem_filterMap.1 h
  unfold Table.scoreFor at hseat
  split at hseat
  · exact ⟨s, hseat, rfl⟩
  · split at hseat
    · obtain ⟨score, hscore, rfl⟩ := Option.map_eq_some_iff.1 hseat
      refine ⟨score, hscore, ?_⟩
      simp only [Score.games, Score.reversed]
      omega
    · cases hseat

/-- Below forty million rounds no count of the standings is cut off. -/
theorem Coherent.sum_sidesOf_le
    {t : Tournament}
    (h : Coherent t)
    (hround : t.round < 40000000)
    (c : Column)
    {id : PlayerId}
    (hid : id ≠ byeId) :
    ((sidesOf t.decidedTables id).map c.worth).sum ≤ maxCount := by
  have hworth : ∀ n ∈ (sidesOf t.decidedTables id).map c.worth, n ≤ 99 := by
    intro n hn
    obtain ⟨s, hs, rfl⟩ := List.mem_map.1 hn
    obtain ⟨table, htable, hside⟩ := List.mem_flatMap.1 hs
    obtain ⟨score, hscore, hgames⟩ := Table.games_of_sides hside
    obtain ⟨-, score', -, -, hscore', hfew, -⟩ := h.score_of_decided htable
    obtain rfl : score = score' := Option.some.inj (hscore.symm.trans hscore')
    have := c.few s
    omega
  have hlength := h.sides_length_le hid
  calc ((sidesOf t.decidedTables id).map c.worth).sum
      ≤ (sidesOf t.decidedTables id).length * 99 := by
        simpa using List.sum_le_card_nsmul _ 99 hworth
    _ ≤ maxCount := by
        unfold maxCount
        omega

/-! ## Columns -/

/-- A column of the standings sums up what all tables add to it. -/
theorem Coherent.sum_column
    {t : Tournament}
    (h : Coherent t)
    (hround : t.round < 40000000)
    (c : Column) :
    (t.updateStandings.standings.map c.entry).sum = (t.decidedTables.map c.given).sum := by
  have hexact : ∀ id ∈ t.ids,
      min ((sidesOf t.decidedTables id).map c.worth).sum maxCount =
        ((sidesOf t.decidedTables id).map c.worth).sum := by
    intro id hid
    refine Nat.min_eq_left (h.sum_sidesOf_le hround c ?_)
    rintro rfl
    exact h.roster.byeId_not_mem hid
  have htables : ∀ table ∈ t.decidedTables,
      (t.ids.map fun id => ((table.sides id).map c.worth).sum).sum = c.given table := by
    intro table htable
    obtain ⟨tables, -, hcoherent, hmem, -⟩ := h.score_of_decided htable
    exact c.sum_table h.roster hcoherent hmem
  calc (t.updateStandings.standings.map c.entry).sum
      = (t.ids.map fun id => min ((sidesOf t.decidedTables id).map c.worth).sum maxCount).sum :=
        c.sum_entries t
    _ = (t.ids.map fun id => ((sidesOf t.decidedTables id).map c.worth).sum).sum := by
        rw [List.map_congr_left hexact]
    _ = (t.decidedTables.map fun table =>
          (t.ids.map fun id => ((table.sides id).map c.worth).sum).sum).sum :=
        sum_sidesOf c.worth t.ids t.decidedTables
    _ = (t.decidedTables.map c.given).sum := by
        rw [List.map_congr_left htables]

/-! ## What a table adds -/

section Given

variable
  {table : Table}
  {s : Score}
  (hs : table.score = some s)

include hs

theorem Column.given_match
    (c : Column)
    (hkind : table.isBye = false) :
    c.given table = c.worth s + c.worth s.reversed := by
  simp [Column.given, hs, hkind]

theorem one_if_isDrawn :
    (if table.isDrawn then 1 else 0) = if table.isBye then 0 else s.drawn := by
  cases hkind : table.isBye <;> simp [Table.isDrawn, hs, hkind, Score.drawn]

variable (hbye : table.isBye = true → s = Score.bye)

include hbye

theorem Column.given_bye
    (c : Column)
    (hkind : table.isBye = true) :
    c.given table = c.worth Score.bye := by
  simp [Column.given, hs, hkind, hbye hkind]

/-- Each match that one side wins the other one loses, and a bye nobody loses. -/
theorem given_wins :
    Column.wins.given table = Column.losses.given table + if table.isBye then 1 else 0 := by
  cases hkind : table.isBye with
  | true =>
      rw [Column.given_bye hs hbye _ hkind, Column.given_bye hs hbye _ hkind]
      rfl
  | false =>
      rw [Column.given_match hs _ hkind, Column.given_match hs _ hkind]
      exact Nat.add_comm s.won s.lost

theorem given_draws :
    Column.draws.given table = 2 * if table.isDrawn then 1 else 0 := by
  rw [one_if_isDrawn hs]
  cases hkind : table.isBye with
  | true =>
      rw [Column.given_bye hs hbye _ hkind]
      rfl
  | false =>
      rw [Column.given_match hs _ hkind]
      simp [Column.draws, Nat.two_mul]

/-- A match gives three points, and one less when it is drawn. -/
theorem given_points :
    Column.points.given table + (if table.isDrawn then 1 else 0) = 3 := by
  rw [one_if_isDrawn hs]
  cases hkind : table.isBye with
  | true =>
      rw [Column.given_bye hs hbye _ hkind]
      rfl
  | false =>
      have hone := s.won_add_lost_add_drawn
      rw [Column.given_match hs _ hkind]
      simp only [Column.points, Score.points_eq, Score.won_reversed, Score.drawn_reversed,
        Bool.false_eq_true, if_false]
      omega

theorem given_gameWins :
    Column.gameWins.given table =
      Column.gameLosses.given table + 2 * if table.isBye then 1 else 0 := by
  cases hkind : table.isBye with
  | true =>
      rw [Column.given_bye hs hbye _ hkind, Column.given_bye hs hbye _ hkind]
      rfl
  | false =>
      rw [Column.given_match hs _ hkind, Column.given_match hs _ hkind]
      exact Nat.add_comm s.wins s.losses

theorem given_gameDraws : Column.gameDraws.given table = 2 * table.drawnGames := by
  have hgames : table.drawnGames = s.draws := by simp [Table.drawnGames, hs]
  cases hkind : table.isBye with
  | true =>
      rw [Column.given_bye hs hbye _ hkind, hgames, hbye hkind]
      rfl
  | false =>
      rw [Column.given_match hs _ hkind, hgames, Nat.two_mul]
      rfl

end Given

/-- What holds of each table that counts holds of a sum over all of them. -/
theorem Coherent.sum_given
    {t : Tournament}
    (h : Coherent t)
    {f g : Table → Nat}
    (hfg : ∀ {table : Table} {s : Score},
      table.score = some s → (table.isBye = true → s = Score.bye) → f table = g table) :
    (t.decidedTables.map f).sum = (t.decidedTables.map g).sum := by
  have hall : ∀ table ∈ t.decidedTables, f table = g table := by
    intro table htable
    obtain ⟨-, s, -, -, hs, -, hbye⟩ := h.score_of_decided htable
    exact hfg hs hbye
  rw [List.map_congr_left hall]

/-- In the standings of a tournament of fewer than forty million rounds, the wins are the losses and one for
each bye, a drawn match counts as two draws, a match gives three points in all and two when it is drawn, the
games won are the games lost and two for each bye, and a drawn game counts twice. -/
theorem standings_conserve_results
    {t : Tournament}
    (h : Reachable t)
    (hround : t.round < 40000000) :
    let rows := t.updateStandings.standings
    let decided := t.decidedTables
    let byes := decided.countP Table.isBye
    let drawn := decided.countP Table.isDrawn
    (rows.map Standing.wins).sum = (rows.map Standing.losses).sum + byes ∧
      (rows.map Standing.draws).sum = 2 * drawn ∧
      (rows.map Standing.points).sum = 3 * (decided.length - drawn) + 2 * drawn ∧
      (rows.map Standing.gameWins).sum = (rows.map Standing.gameLosses).sum + 2 * byes ∧
      (rows.map Standing.gameDraws).sum = 2 * (decided.map Table.drawnGames).sum := by
  intro rows decided byes drawn
  have hc := h.coherent
  have hbyes : (decided.map fun table => if table.isBye then 1 else 0).sum = byes :=
    sum_map_one_if Table.isBye decided
  have hdrawn : (decided.map fun table => if table.isDrawn then 1 else 0).sum = drawn :=
    sum_map_one_if Table.isDrawn decided
  have hsum (c : Column) : (rows.map c.entry).sum = (decided.map c.given).sum :=
    hc.sum_column hround c
  refine ⟨?_, ?_, ?_, ?_, ?_⟩
  · calc (rows.map Standing.wins).sum
        = (decided.map Column.wins.given).sum := hsum .wins
      _ = (decided.map Column.losses.given).sum + byes := by
          rw [hc.sum_given given_wins, List.sum_map_add, hbyes]
      _ = (rows.map Standing.losses).sum + byes := by
          rw [← hsum .losses]
          rfl
  · calc (rows.map Standing.draws).sum
        = (decided.map Column.draws.given).sum := hsum .draws
      _ = 2 * drawn := by
          rw [hc.sum_given given_draws, List.sum_map_mul_left, hdrawn]
  · have hpoints : (rows.map Standing.points).sum + drawn = 3 * decided.length :=
      calc (rows.map Standing.points).sum + drawn
          = (decided.map Column.points.given).sum +
              (decided.map fun table => if table.isDrawn then 1 else 0).sum := by
            rw [hdrawn, ← hsum .points]
            rfl
        _ = (decided.map fun _ => 3).sum := by
            rw [← List.sum_map_add, hc.sum_given given_points]
        _ = 3 * decided.length := by simp [Nat.mul_comm]
    have hle : drawn ≤ decided.length := List.countP_le_length
    omega
  · calc (rows.map Standing.gameWins).sum
        = (decided.map Column.gameWins.given).sum := hsum .gameWins
      _ = (decided.map Column.gameLosses.given).sum + 2 * byes := by
          rw [hc.sum_given given_gameWins, List.sum_map_add, List.sum_map_mul_left, hbyes]
      _ = (rows.map Standing.gameLosses).sum + 2 * byes := by
          rw [← hsum .gameLosses]
          rfl
  · calc (rows.map Standing.gameDraws).sum
        = (decided.map Column.gameDraws.given).sum := hsum .gameDraws
      _ = 2 * (decided.map Table.drawnGames).sum := by
          rw [hc.sum_given given_gameDraws, List.sum_map_mul_left]

/-- The three players after a drawn match in their first round. -/
def firstMatchDrawn : Tournament :=
  { threeStarted with tables := [⟨1, 2, some ⟨1, 1, 1⟩⟩, .bye 3] }

theorem firstMatchDrawn_reachable : Reachable firstMatchDrawn :=
  threeStarted_reachable.next (.record 1 ⟨1, 1, 1⟩) rfl

theorem standings_conserve_results_firstMatchDrawn :
    Reachable firstMatchDrawn ∧
      firstMatchDrawn.round < 40000000 ∧
      firstMatchDrawn.decidedTables.countP Table.isBye = 1 ∧
      firstMatchDrawn.decidedTables.countP Table.isDrawn = 1 ∧
      (firstMatchDrawn.updateStandings.standings.map Standing.wins).sum =
        (firstMatchDrawn.updateStandings.standings.map Standing.losses).sum + 1 ∧
      (firstMatchDrawn.updateStandings.standings.map Standing.draws).sum = 2 ∧
      (firstMatchDrawn.updateStandings.standings.map Standing.points).sum = 5 ∧
      (firstMatchDrawn.updateStandings.standings.map Standing.gameWins).sum =
        (firstMatchDrawn.updateStandings.standings.map Standing.gameLosses).sum + 2 ∧
      (firstMatchDrawn.updateStandings.standings.map Standing.gameDraws).sum = 2 := by
  have hround : firstMatchDrawn.round < 40000000 := by decide
  exact ⟨firstMatchDrawn_reachable, hround, rfl, rfl,
    standings_conserve_results firstMatchDrawn_reachable hround⟩

end Swiss
end TournamentDesk
