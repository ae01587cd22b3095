import Mathlib.Algebra.BigOperators.Group.List.Basic
import TournamentDesk.Proofs.Swiss.Coherence
import TournamentDesk.Proofs.Swiss.Percentages

/-!
# What a tally counts

A row of the standings has seven counts, and they are all kept in one way: each seat that a player has at a
decided table adds what the score from that side is worth, and the count stops at the largest number a
record holds. So a count is a sum over the player's scores, or that number if the sum is greater.

* `Column`: one of the seven counts.
* `Column.count_of`: the count of a tally.
* `Column.sum_entries`: the sum of a column of the standings.
-/

namespace TournamentDesk
namespace Swiss

/-! ## Scores from one side -/

/-- The scores of a player at a table, one for each seat the player has there. -/
def Table.sides (table : Table) (id : PlayerId) : List Score :=
  (table.seats.filter fun seat => seat = id).filterMap table.scoreFor

/-- The scores of a player at tables. -/
def sidesOf (tables : List Table) (id : PlayerId) : List Score :=
  tables.flatMap fun table => table.sides id

@[simp] theorem sidesOf_nil (id : PlayerId) : sidesOf [] id = [] :=
  rfl

@[simp] theorem sidesOf_cons (table : Table) (tables : List Table) (id : PlayerId) :
    sidesOf (table :: tables) id = table.sides id ++ sidesOf tables id :=
  rfl

@[simp] theorem Table.sides_open (first second id : PlayerId) :
    Table.sides ⟨first, second, none⟩ id = [] := by
  simp [Table.sides, Table.scoreFor]

/-- At a table with two different sides, the scores of a player add up seat by seat. -/
theorem Table.sum_sides
    (worth : Score → Nat)
    {table : Table}
    (hne : table.first ≠ table.second)
    (id : PlayerId) :
    ((table.sides id).map worth).sum =
      (if table.first = id then (table.score.map worth).getD 0 else 0) +
        if table.second = id then (table.score.map fun s => worth s.reversed).getD 0 else 0 := by
  by_cases hfirst : table.first = id
  · have hsecond : ¬ table.second = id := fun hsecond => hne (hfirst.trans hsecond.symm)
    cases hs : table.score <;> simp [Table.sides, Table.seats, Table.scoreFor, hs, hfirst, hsecond]
  · by_cases hsecond : table.second = id
    · cases hs : table.score <;> simp [Table.sides, Table.seats, Table.scoreFor, hs, hfirst, hsecond]
    · simp [Table.sides, Table.seats, hfirst, hsecond]

/-! ## Columns -/

/-- A count of the standings, with how the tallies keep it. -/
structure Column where
  /-- The count in a row of the standings. -/
  entry : Standing → Nat
  /-- The count in a tally. -/
  count : Tally → Nat
  /-- What a match adds to it, by the score from the player's side. -/
  worth : Score → Nat
  zero : count Tally.zero = 0 := by rfl
  addScore : ∀ t s, count (t.addScore s) = addCount (count t) (worth s) := by intros; rfl
  /-- Opponents do not matter to it. -/
  opponents : ∀ t ids, count { t with opponents := ids } = count t := by intros; rfl
  /-- Nor does the place. -/
  rank : ∀ row n, entry { row with rank := n } = entry row := by intros; rfl
  row : ∀ tallies p,
    entry (Tournament.row tallies p) = count ((tallies.lookup p.id).getD Tally.zero) := by intros; rfl
  /-- A match of a few games adds no more than their number, or three. -/
  few : ∀ s, worth s ≤ max 3 s.games

/-- One for a match that is won. -/
def Score.won (s : Score) : Nat :=
  if s.losses < s.wins then 1 else 0

/-- One for a match that is lost. -/
def Score.lost (s : Score) : Nat :=
  if s.wins < s.losses then 1 else 0

/-- One for a match that is drawn. -/
def Score.drawn (s : Score) : Nat :=
  if s.wins = s.losses then 1 else 0

@[simp] theorem Score.won_reversed (s : Score) : s.reversed.won = s.lost :=
  rfl

@[simp] theorem Score.drawn_reversed (s : Score) : s.reversed.drawn = s.drawn := by
  simp [Score.drawn, Score.reversed, eq_comm]

theorem Score.points_eq (s : Score) : s.points = 3 * s.won + s.drawn := by
  unfold Score.points Score.won Score.drawn
  split
  · next hwon => simp [Nat.ne_of_gt hwon]
  · simp

theorem Score.won_add_lost_add_drawn (s : Score) : s.won + s.lost + s.drawn = 1 := by
  unfold Score.won Score.lost Score.drawn
  rcases Nat.lt_trichotomy s.wins s.losses with h | h | h
  · simp [h, Nat.lt_asymm h, Nat.ne_of_lt h]
  · simp [h]
  · simp [h, Nat.lt_asymm h, Nat.ne_of_gt h]

namespace Column

def points : Column where
  entry := Standing.points
  count := Tally.points
  worth := Score.points
  few s := by
    have := s.points_eq
    have := s.won_add_lost_add_drawn
    omega

def wins : Column where
  entry := Standing.wins
  count := Tally.wins
  worth := Score.won
  few s := by
    have := s.won_add_lost_add_drawn
    omega

def losses : Column where
  entry := Standing.losses
  count := Tally.losses
  worth := Score.lost
  few s := by
    have := s.won_add_lost_add_drawn
    omega

def draws : Column where
  entry := Standing.draws
  count := Tally.draws
  worth := Score.drawn
  few s := by
    have := s.won_add_lost_add_drawn
    omega

def gameWins : Column where
  entry := Standing.gameWins
  count := Tally.gameWins
  worth := Score.wins
  few s := by
    unfold Score.games
    omega

def gameLosses : Column where
  entry := Standing.gameLosses
  count := Tally.gameLosses
  worth := Score.losses
  few s := by
    unfold Score.games
    omega

def gameDraws : Column where
  entry := Standing.gameDraws
  count := Tally.gameDraws
  worth := Score.draws
  few s := by
    unfold Score.games
    omega

end Column

/-! ## The count of a tally -/

theorem foldl_addCount
    {n : Nat}
    (hn : n ≤ maxCount)
    (ns : List Nat) :
    ns.foldl addCount n = min (n + ns.sum) maxCount := by
  induction ns generalizing n with
  | nil =>
      rw [List.sum_nil, Nat.add_zero]
      exact (Nat.min_eq_left hn).symm
  | cons m rest ih =>
      rw [List.foldl_cons, ih (addCount_le n m), List.sum_cons]
      unfold addCount
      omega

/-- A table adds the worth of each score that a player has there. -/
theorem Column.count_addTable
    (c : Column)
    (id : PlayerId)
    (t : Tally)
    (table : Table) :
    c.count (t.addTable id table) = ((table.sides id).map c.worth).foldl addCount (c.count t) := by
  obtain ⟨first, second, score⟩ := table
  cases score with
  | none => simp [Tally.addTable, Table.seats, Table.scoreFor]
  | some s =>
      -- whether the second seat is a bye matters for the opponents only
      have hopponents (u : Tally) (ids : List PlayerId) (bye : Bool) :
          c.count (if bye = true then u else { u with opponents := ids }) = c.count u := by
        split
        · rfl
        · exact c.opponents u ids
      by_cases hfirst : first = id <;> by_cases hsecond : second = id <;>
        simp [Tally.addTable, Table.sides, Table.seats, Table.scoreFor, Table.opponentOf, hfirst,
          hsecond, hopponents, c.addScore]

theorem Column.count_foldl
    (c : Column)
    (id : PlayerId)
    (tables : List Table)
    (t : Tally) :
    c.count (tables.foldl (Tally.addTable id) t) =
      ((sidesOf tables id).map c.worth).foldl addCount (c.count t) := by
  induction tables generalizing t with
  | nil => rfl
  | cons table rest ih =>
      rw [List.foldl_cons, ih, c.count_addTable, sidesOf_cons, List.map_append, List.foldl_append]

/-- The count of a tally is the sum over the player's scores, up to the largest number a record holds. -/
theorem Column.count_of
    (c : Column)
    (tables : List Table)
    (id : PlayerId) :
    c.count (Tally.of tables id) = min ((sidesOf tables id).map c.worth).sum maxCount := by
  rw [Tally.of, c.count_foldl, c.zero, foldl_addCount (Nat.zero_le _), Nat.zero_add]

/-! ## The rows of the standings -/

theorem lookup_byId
    {α : Type}
    (f : PlayerId → α)
    {players : List Player}
    {p : Player}
    (hp : p ∈ players) :
    (players.map fun p => (p.id, f p.id)).lookup p.id = some (f p.id) := by
  induction players with
  | nil => cases hp
  | cons q rest ih =>
      rw [List.map_cons]
      by_cases hid : p.id = q.id
      · simp [hid]
      · have hrest : p ∈ rest := by
          rcases List.mem_cons.1 hp with rfl | hrest
          · exact absurd rfl hid
          · exact hrest
        have hne : (p.id == q.id) = false := by simpa using hid
        rw [List.lookup_cons, hne]
        exact ih hrest

/-- The entry of a row counts the decided tables. -/
theorem Column.entry_row
    (c : Column)
    {t : Tournament}
    {p : Player}
    (hp : p ∈ t.players) :
    c.entry (Tournament.row t.tallies p) =
      min ((sidesOf t.decidedTables p.id).map c.worth).sum maxCount := by
  have hlookup : t.tallies.lookup p.id = some (Tally.of t.decidedTables p.id) :=
    lookup_byId (Tally.of t.decidedTables) hp
  rw [c.row, hlookup, Option.getD_some, c.count_of]

/-- Whatever their order and their places, the rows of the standings are those of the roster. -/
theorem map_standings_perm
    {α : Type}
    (t : Tournament)
    {f : Standing → α}
    (hf : ∀ row n, f { row with rank := n } = f row) :
    (t.updateStandings.standings.map f).Perm
      (t.players.map fun p => f (Tournament.row t.tallies p)) := by
  have hranks (rows : List Standing) : (withRanks rows).map f = rows.map f := by
    refine List.ext_getElem (by simp [withRanks]) ?_
    intro i _ _
    simp [withRanks, hf]
  have hsorted := List.mergeSort_perm (t.players.map (Tournament.row t.tallies))
    fun a b => a.order b != .gt
  rw [Tournament.updateStandings, Tournament.computeStandings, hranks]
  refine (hsorted.map f).trans ?_
  rw [List.map_map]
  exact .refl _

/-- A row of the standings is the row of a roster entry, with its place. -/
theorem exists_of_mem_standings
    {t : Tournament}
    {row : Standing}
    (h : row ∈ t.updateStandings.standings) :
    ∃ p ∈ t.players, ∃ n, row = { Tournament.row t.tallies p with rank := n } := by
  have hperm := map_standings_perm t (f := fun row => { row with rank := 0 }) fun _ _ => rfl
  obtain ⟨p, hp, hrow⟩ := List.mem_map.1 (hperm.subset (List.mem_map_of_mem h))
  exact ⟨p, hp, row.rank, (congrArg (fun r : Standing => { r with rank := row.rank }) hrow).symm⟩

/-- The sum of a column of the standings. -/
theorem Column.sum_entries
    (c : Column)
    (t : Tournament) :
    (t.updateStandings.standings.map c.entry).sum =
      (t.ids.map fun id => min ((sidesOf t.decidedTables id).map c.worth).sum maxCount).sum := by
  calc (t.updateStandings.standings.map c.entry).sum
      = (t.players.map fun p => c.entry (Tournament.row t.tallies p)).sum :=
        (map_standings_perm t c.rank).sum_eq
    _ = (t.players.map fun p => min ((sidesOf t.decidedTables p.id).map c.worth).sum maxCount).sum :=
        congrArg List.sum (List.map_congr_left fun _ => c.entry_row)
    _ = (t.ids.map fun id => min ((sidesOf t.decidedTables id).map c.worth).sum maxCount).sum := by
        rw [Tournament.ids, List.map_map]
        rfl

end Swiss
end TournamentDesk
