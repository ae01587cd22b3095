import TournamentDesk.Proofs.Swiss.NewRound

/-!
# Nobody meets the same opponent twice

A search without rematches looks at the finished rounds alone. That is enough: the tables of one round
have no player in common, pairing a round anew replaces its tables, and closing it hands them over as they
are. So as long as no round is paired with leave for rematches, no two tables seat the same two players,
whoever joins or leaves in between.

* `Course`: the tournaments that a list of verbs leads to.
* `nobody_meets_twice`: the tables of all rounds of a course without such leave.
-/

namespace TournamentDesk
namespace Swiss

/-! ## Opponents -/

/-- Two tables seat the same two players, in either order. -/
def Table.SameOpponents (a b : Table) : Prop :=
  a.first = b.first ∧ a.second = b.second ∨ a.first = b.second ∧ a.second = b.first

/-- Unless one of them has a bye, two tables do not seat the same two players. -/
def Table.NoRepeat (a b : Table) : Prop :=
  a.isBye = false → b.isBye = false → ¬ a.SameOpponents b

/-- The tables of all rounds, those of the current one last. -/
def Tournament.allTables (t : Tournament) : List Table :=
  t.history.map Played.table ++ t.tables

theorem Table.noRepeat_of_disjoint
    {a b : Table}
    (h : a.occupants.Disjoint b.occupants) :
    a.NoRepeat b := by
  intro hbye hbye' hsame
  rw [Table.occupants_of_not_isBye hbye, Table.occupants_of_not_isBye hbye'] at h
  refine h (a := a.first) (by simp [Table.seats]) ?_
  rcases hsame with ⟨hfirst, -⟩ | ⟨hfirst, -⟩ <;> simp [Table.seats, hfirst]

/-- Where nobody has two seats, nobody has the same opponent at two tables. -/
theorem noRepeat_of_nodup
    {tables : List Table}
    (h : (occupied tables).Nodup) :
    tables.Pairwise Table.NoRepeat :=
  (List.nodup_flatMap.1 h).2.imp Table.noRepeat_of_disjoint

theorem NoRematch.noRepeat
    {history : List Played}
    {tables : List Table}
    (h : NoRematch history tables)
    {past table : Table}
    (hpast : past ∈ history.map Played.table)
    (htable : table ∈ tables) :
    past.NoRepeat table := by
  intro hbye hbye' hsame
  obtain ⟨r, hr, rfl⟩ := List.mem_map.1 hpast
  exact h table htable hbye' ⟨r, hr, hbye, hsame⟩

/-! ## Steps -/

/-- A round that is paired without leave for rematches repeats neither an earlier table nor one of its
own. -/
theorem noRepeat_drawTables
    {t : Tournament}
    (hc : Coherent t)
    (hall : t.allTables.Pairwise Table.NoRepeat)
    {draw : Draw}
    (hdraw : draw.Fair)
    {tables : List Table}
    (hdrawn : t.drawTables draw false = .ok tables) :
    (t.history.map Played.table ++ tables).Pairwise Table.NoRepeat := by
  obtain ⟨hseats, hnew⟩ := drawTables_seats hdraw hc.activeIds_nodup hc.byeId_not_mem hdrawn
  have hnodup : (occupied tables).Nodup := hseats.occupants.nodup_iff.2 hc.activeIds_nodup
  obtain ⟨hpast, -, -⟩ := List.pairwise_append.1 hall
  refine List.pairwise_append.2 ⟨hpast, noRepeat_of_nodup hnodup, ?_⟩
  intro past hmem table htable
  exact (hnew rfl).noRepeat hmem htable

/-- A result does not change who sits where. -/
theorem noRepeat_enter
    {past before after : List Table}
    {table : Table}
    (h : (past ++ (before ++ table :: after)).Pairwise Table.NoRepeat)
    (score : Option Score) :
    (past ++ (before ++ { table with score } :: after)).Pairwise Table.NoRepeat := by
  have hblank : ∀ tables : List Table,
      tables.Pairwise Table.NoRepeat ↔
        (tables.map fun table => { table with score := none }).Pairwise Table.NoRepeat := by
    intro tables
    rw [List.pairwise_map]
    rfl
  rw [hblank] at h ⊢
  simpa only [List.map_append, List.map_cons] using h

/-- No verb but a pairing with leave for rematches repeats a table. -/
theorem Effect.noRepeat
    {t : Tournament}
    {draw : Draw}
    {verb : Verb}
    {s : Step}
    (h : Effect t draw verb s)
    (hdraw : draw.Fair)
    (hplain : verb ≠ .pair true)
    (hc : Coherent t)
    (hall : t.allTables.Pairwise Table.NoRepeat) :
    s.tournament.allTables.Pairwise Table.NoRepeat := by
  cases h with
  | started phase drawn => exact noRepeat_drawTables hc hall hdraw drawn
  | @paired allowRepair tables phase undecided drawn =>
      cases allowRepair with
      | false => exact noRepeat_drawTables hc hall hdraw drawn
      | true => exact absurd rfl hplain
  | closed phase seated decided =>
      simpa [Tournament.allTables, Step.silent, Function.comp_def] using hall
  | recorded phase some_game few_games known found first_table involved no_bye =>
      rw [Tournament.allTables, found] at hall
      exact noRepeat_enter hall _
  | added => exact hall
  | removed => exact hall
  | ranked => exact hall
  | finished => exact hall

/-! ## Courses -/

/-- The verbs that were asked of a tournament from the beginning on, and what it has come to. The draws are
fair, and a verb that is refused changes nothing. -/
inductive Course : List Verb → Tournament → Prop
  | empty :
      Course [] Tournament.empty
  | done
      {verbs : List Verb}
      {t : Tournament}
      {draw : Draw}
      {verb : Verb}
      {s : Step} :
      Course verbs t →
      draw.Fair →
      t.perform draw verb = .ok s →
      Course (verbs ++ [verb]) s.tournament
  | refused
      {verbs : List Verb}
      {t : Tournament}
      {draw : Draw}
      {verb : Verb}
      {refusal : Refusal} :
      Course verbs t →
      draw.Fair →
      t.perform draw verb = .error refusal →
      Course (verbs ++ [verb]) t

theorem Course.reachable
    {verbs : List Verb}
    {t : Tournament}
    (h : Course verbs t) :
    Reachable t := by
  induction h with
  | empty => exact .empty
  | done _ hdraw hperform ih => exact ih.step hdraw hperform
  | refused _ _ _ ih => exact ih

/-- As long as no round is paired with leave for rematches, no two tables of all rounds, the current one
included, seat the same two players. -/
theorem nobody_meets_twice
    {verbs : List Verb}
    {t : Tournament}
    (h : Course verbs t)
    (hplain : Verb.pair true ∉ verbs) :
    t.allTables.Pairwise Table.NoRepeat := by
  induction h with
  | empty => exact .nil
  | @done verbs t draw verb s hcourse hdraw hperform ih =>
      simp only [List.mem_append, List.mem_singleton, not_or] at hplain
      obtain ⟨hbefore, hverb⟩ := hplain
      exact (perform_effect hperform).noRepeat hdraw (Ne.symm hverb) hcourse.reachable.coherent
        (ih hbefore)
  | refused hcourse hdraw hperform ih =>
      exact ih fun hmem => hplain (List.mem_append_left _ hmem)

/-- One more verb, with a draw that keeps the order. -/
theorem Course.next
    {verbs : List Verb}
    {t : Tournament}
    (h : Course verbs t)
    (verb : Verb)
    {s : Step}
    (hperform : t.perform id verb = .ok s) :
    Course (verbs ++ [verb]) s.tournament :=
  h.done Draw.fair_id hperform

/-- Four players in their second round, which cannot be closed yet. -/
theorem fourDrawn_course :
    Course
      [.add "Ann", .add "Bob", .add "Cid", .add "Dee", .start, .record 1 ⟨1, 1, 0⟩,
        .record 4 ⟨1, 1, 0⟩, .nextRound, .pair false, .nextRound]
      { fourDrawn with tables := [.fresh 1 3, .fresh 2 4] } := by
  have hann := Course.empty.next (.add "Ann") rfl
  have hbob := hann.next (.add "Bob") rfl
  have hcid := hbob.next (.add "Cid") rfl
  have hdee := hcid.next (.add "Dee") rfl
  have hstart := hdee.next .start fourPlayers_start
  have hfirst := hstart.next (.record 1 ⟨1, 1, 0⟩) rfl
  have hsecond := hfirst.next (.record 4 ⟨1, 1, 0⟩) rfl
  have hclosed := hsecond.next .nextRound rfl
  have hpaired := hclosed.next (.pair false) fourDrawn_pair
  exact hpaired.refused Draw.fair_id rfl

theorem nobody_meets_twice_fourDrawn :
    ∃ verbs t,
      Course verbs t ∧
        Verb.pair true ∉ verbs ∧
        t.allTables =
          [⟨1, 2, some ⟨1, 1, 0⟩⟩, ⟨3, 4, some ⟨1, 1, 0⟩⟩, .fresh 1 3, .fresh 2 4] ∧
        t.allTables.Pairwise Table.NoRepeat := by
  refine ⟨_, _, fourDrawn_course, ?_, rfl, nobody_meets_twice fourDrawn_course ?_⟩ <;> decide

end Swiss
end TournamentDesk
