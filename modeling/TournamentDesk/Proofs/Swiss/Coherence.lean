import Mathlib.Data.List.Nodup
import TournamentDesk.Proofs.Swiss.Reachable

/-!
# Tournaments make sense

The numbers of the roster, the tables of the current round and the tables of finished rounds fit
together in every tournament that verbs can make. The parts are stated one by one, each with what keeps
it, and then put together.

* `Reachable.coherent`: every reachable tournament is coherent.
* `reachable_structure`: what that means, part by part.
-/

namespace TournamentDesk
namespace Swiss

/-- The numbers on the roster, removed players included. -/
def Tournament.ids (t : Tournament) : List PlayerId :=
  t.players.map Player.id

/-- The names on the roster, removed players included. -/
def Tournament.names (t : Tournament) : List String :=
  t.players.map Player.name

/-- The tables of one finished round. -/
def tablesOf (history : List Played) (n : Nat) : List Table :=
  (history.filter fun r => r.round = n).map Played.table

/-- A roster that numbers its entries from one on and tells them apart by name. -/
structure RosterCoherent (players : List Player) (lastId : PlayerId) : Prop where
  /-- The entries have the numbers 1, 2, 3 and so on. -/
  numbered : players.map Player.id = (List.range' 1 players.length).map fun (i : Nat) => (i : PlayerId)
  /-- The last number is the number of entries. -/
  last : lastId = players.length
  distinct : (players.map Player.name).Nodup
  visible : ∀ p ∈ players, Text.isBlank p.name = false

/-- The tables of one round, over a roster with the given numbers. -/
structure RoundCoherent (ids : List PlayerId) (tables : List Table) : Prop where
  /-- Nobody has two seats. -/
  once : (occupied tables).Nodup
  /-- Whoever has a seat is on the roster. -/
  known : ∀ id ∈ occupied tables, id ∈ ids
  /-- There is at most one bye. -/
  oneBye : tables.countP Table.isBye ≤ 1
  /-- A bye is scored as it always is. -/
  byeScore : ∀ table ∈ tables, table.isBye = true → table.score = some Score.bye
  /-- Any other result has at least one game and no more than a match may have. -/
  games : ∀ table ∈ tables, table.isBye = false →
    ∀ score, table.score = some score → 1 ≤ score.games ∧ score.games ≤ 99

/-- The tables of all finished rounds, when the given round is the current one. -/
structure HistoryCoherent (ids : List PlayerId) (round : Nat) (history : List Played) : Prop where
  each : ∀ n, RoundCoherent ids (tablesOf history n)
  decided : ∀ r ∈ history, r.table.score.isSome = true
  /-- Earlier rounds come first. -/
  ordered : (history.map Played.round).Pairwise (· ≤ ·)
  /-- The rounds are those before the current one. -/
  occurring : ∀ n, (∃ r ∈ history, r.round = n) ↔ 1 ≤ n ∧ n < round
  /-- In each of them two players met. -/
  contested : ∀ n, 1 ≤ n → n < round → ∃ r ∈ history, r.round = n ∧ r.table.isBye = false

/-- A tournament whose parts fit together. -/
structure Coherent (t : Tournament) : Prop where
  roster : RosterCoherent t.players t.lastId
  /-- The tournament has not started exactly when there is no current round. -/
  unstarted : t.phase = .notStarted ↔ t.round = 0
  /-- Before the start there are no tables. -/
  untouched : t.round = 0 → t.tables = [] ∧ t.history = []
  current : RoundCoherent t.ids t.tables
  /-- In a current round that is paired two players meet. -/
  contested : t.tables ≠ [] → ∃ table ∈ t.tables, table.isBye = false
  past : HistoryCoherent t.ids t.round t.history

/-! ## The roster -/

theorem RosterCoherent.mem_ids_iff
    {players : List Player}
    {lastId : PlayerId}
    (h : RosterCoherent players lastId)
    (id : PlayerId) :
    id ∈ players.map Player.id ↔ 1 ≤ id ∧ id ≤ lastId := by
  rw [h.numbered, h.last]
  simp only [List.mem_map, List.mem_range'_1]
  constructor
  · rintro ⟨i, ⟨hlow, hhigh⟩, rfl⟩
    lia
  · rintro ⟨hlow, hhigh⟩
    refine ⟨id.toNat, ⟨?_, ?_⟩, ?_⟩ <;> lia

theorem RosterCoherent.ids_nodup
    {players : List Player}
    {lastId : PlayerId}
    (h : RosterCoherent players lastId) :
    (players.map Player.id).Nodup := by
  rw [h.numbered]
  exact List.Nodup.map (fun i j hij => Int.ofNat.inj hij) List.nodup_range'

/-- Nobody has the number of the bye. -/
theorem RosterCoherent.byeId_not_mem
    {players : List Player}
    {lastId : PlayerId}
    (h : RosterCoherent players lastId) :
    byeId ∉ players.map Player.id := by
  intro hin
  exact absurd ((h.mem_ids_iff byeId).1 hin).1 (by decide)

/-- A new entry gets the next number. -/
theorem RosterCoherent.add
    {players : List Player}
    {lastId : PlayerId}
    {name : String}
    (h : RosterCoherent players lastId)
    (hvisible : Text.isBlank name = false)
    (hnew : ∀ p ∈ players, p.name ≠ name) :
    RosterCoherent (players ++ [⟨lastId + 1, name, false⟩]) (lastId + 1) := by
  constructor
  · rw [List.map_append, h.numbered, List.length_append, List.length_singleton,
      List.range'_concat, List.map_append, h.last]
    simp [Int.add_comm]
  · simp [h.last]
  · rw [List.map_append, List.nodup_append]
    refine ⟨h.distinct, by simp, ?_⟩
    intro a ha b hb hab
    obtain ⟨p, hp, rfl⟩ := List.mem_map.1 ha
    simp only [List.map_cons, List.map_nil, List.mem_singleton] at hb
    exact hnew p hp (hab.trans hb)
  · intro p hp
    rcases List.mem_append.1 hp with hp | hp
    · exact h.visible p hp
    · rw [List.mem_singleton.1 hp]
      exact hvisible

/-- Who has left does not matter for a roster. -/
theorem RosterCoherent.congr
    {players others : List Player}
    {lastId : PlayerId}
    (h : RosterCoherent players lastId)
    (hids : others.map Player.id = players.map Player.id)
    (hnames : others.map Player.name = players.map Player.name) :
    RosterCoherent others lastId := by
  have hlength : others.length = players.length := by
    simpa using congrArg List.length hids
  constructor
  · rw [hids, hlength]
    exact h.numbered
  · rw [hlength]
    exact h.last
  · rw [hnames]
    exact h.distinct
  · intro p hp
    have hname : p.name ∈ players.map Player.name := hnames ▸ List.mem_map_of_mem hp
    obtain ⟨q, hq, hqp⟩ := List.mem_map.1 hname
    rw [← hqp]
    exact h.visible q hq

/-! ## One round -/

theorem RoundCoherent.nil (ids : List PlayerId) : RoundCoherent ids [] :=
  ⟨by simp, by simp, by simp, by simp, by simp⟩

theorem RoundCoherent.mono
    {ids more : List PlayerId}
    {tables : List Table}
    (h : RoundCoherent ids tables)
    (hsub : ids ⊆ more) :
    RoundCoherent more tables :=
  ⟨h.once, fun id hid => hsub (h.known id hid), h.oneBye, h.byeScore, h.games⟩

/-- The tables of a new round are coherent. -/
theorem RoundCoherent.of_seats
    {field ids : List PlayerId}
    {tables : List Table}
    (h : Seats field tables)
    (hnodup : field.Nodup)
    (hsub : field ⊆ ids) :
    RoundCoherent ids tables := by
  constructor
  · exact h.occupants.nodup_iff.2 hnodup
  · intro id hid
    exact hsub (h.occupants.subset hid)
  · rw [h.byes]
    omega
  · intro table htable hbye
    rw [h.scores table htable, if_pos hbye]
  · intro table htable hbye score hscore
    rw [h.scores table htable, hbye] at hscore
    simp at hscore

/-- A result on a table other than a bye keeps a round coherent. -/
theorem RoundCoherent.enter
    {ids : List PlayerId}
    {before after : List Table}
    {table : Table}
    {score : Score}
    (h : RoundCoherent ids (before ++ table :: after))
    (hbye : table.isBye = false)
    (hsome : 1 ≤ score.games)
    (hfew : score.games ≤ 99) :
    RoundCoherent ids (before ++ { table with score := some score } :: after) := by
  have hbye' : Table.isBye { table with score := some score } = false := hbye
  have hoccupied : occupied (before ++ { table with score := some score } :: after) =
      occupied (before ++ table :: after) := by
    simp [occupied, Table.occupants, Table.isBye, Table.seats]
  constructor
  · rw [hoccupied]
    exact h.once
  · rw [hoccupied]
    exact h.known
  · have hone := h.oneBye
    rw [List.countP_append, List.countP_cons] at hone ⊢
    rw [hbye']
    rw [hbye] at hone
    exact hone
  · intro other hother
    rcases List.mem_append.1 hother with hother | hother
    · exact h.byeScore other (List.mem_append_left _ hother)
    · rcases List.mem_cons.1 hother with rfl | hother
      · intro htrue
        rw [hbye'] at htrue
        cases htrue
      · exact h.byeScore other (List.mem_append_right _ (List.mem_cons_of_mem _ hother))
  · intro other hother
    rcases List.mem_append.1 hother with hother | hother
    · exact h.games other (List.mem_append_left _ hother)
    · rcases List.mem_cons.1 hother with rfl | hother
      · intro _ entered hentered
        cases hentered
        exact ⟨hsome, hfew⟩
      · exact h.games other (List.mem_append_right _ (List.mem_cons_of_mem _ hother))

/-! ## Finished rounds -/

theorem HistoryCoherent.nil
    (ids : List PlayerId)
    {round : Nat}
    (hround : round ≤ 1) :
    HistoryCoherent ids round [] := by
  refine ⟨fun _ => RoundCoherent.nil ids, by simp, by simp, ?_, ?_⟩
  · intro n
    simp
    omega
  · intro n hlow hhigh
    omega

theorem HistoryCoherent.mono
    {ids more : List PlayerId}
    {round : Nat}
    {history : List Played}
    (h : HistoryCoherent ids round history)
    (hsub : ids ⊆ more) :
    HistoryCoherent more round history :=
  ⟨fun n => (h.each n).mono hsub, h.decided, h.ordered, h.occurring, h.contested⟩

theorem HistoryCoherent.round_lt
    {ids : List PlayerId}
    {round : Nat}
    {history : List Played}
    (h : HistoryCoherent ids round history)
    {r : Played}
    (hr : r ∈ history) :
    1 ≤ r.round ∧ r.round < round :=
  (h.occurring r.round).1 ⟨r, hr, rfl⟩

@[simp] theorem tablesOf_append (past closed : List Played) (n : Nat) :
    tablesOf (past ++ closed) n = tablesOf past n ++ tablesOf closed n := by
  simp [tablesOf]

theorem tablesOf_closed (tables : List Table) (round n : Nat) :
    tablesOf (tables.map (Played.mk round)) n = if round = n then tables else [] := by
  by_cases h : round = n <;> simp [tablesOf, List.filter_map, Function.comp_def, h]

/-- Closing a round puts its tables behind those of the finished rounds. -/
theorem HistoryCoherent.close
    {ids : List PlayerId}
    {round : Nat}
    {history : List Played}
    {tables : List Table}
    (h : HistoryCoherent ids round history)
    (hround : 1 ≤ round)
    (hcurrent : RoundCoherent ids tables)
    (hdecided : ∀ table ∈ tables, table.score.isSome = true)
    (hcontested : ∃ table ∈ tables, table.isBye = false) :
    HistoryCoherent ids (round + 1) (history ++ tables.map (Played.mk round)) := by
  constructor
  · intro n
    rw [tablesOf_append, tablesOf_closed]
    split
    · next hn =>
      -- no finished round has the number of the round that is being closed
      have hnone : tablesOf history n = [] := by
        simp only [tablesOf, List.map_eq_nil_iff, List.filter_eq_nil_iff, decide_eq_true_eq]
        intro r hr hrn
        have := (h.round_lt hr).2
        omega
      rw [hnone, List.nil_append]
      exact hcurrent
    · rw [List.append_nil]
      exact h.each n
  · intro r hr
    rcases List.mem_append.1 hr with hr | hr
    · exact h.decided r hr
    · obtain ⟨table, htable, rfl⟩ := List.mem_map.1 hr
      exact hdecided table htable
  · rw [List.map_append, List.pairwise_append]
    refine ⟨h.ordered, ?_, ?_⟩
    · simp [List.pairwise_map, List.pairwise_of_forall]
    · intro a ha b hb
      obtain ⟨r, hr, rfl⟩ := List.mem_map.1 ha
      simp only [List.map_map, List.mem_map, Function.comp_apply] at hb
      obtain ⟨_, _, rfl⟩ := hb
      exact Nat.le_of_lt (h.round_lt hr).2
  · intro n
    constructor
    · rintro ⟨r, hr, rfl⟩
      rcases List.mem_append.1 hr with hr | hr
      · have := h.round_lt hr
        omega
      · obtain ⟨table, _, rfl⟩ := List.mem_map.1 hr
        simp only
        omega
    · rintro ⟨hlow, hhigh⟩
      by_cases hn : n = round
      · obtain ⟨table, htable, _⟩ := hcontested
        exact ⟨⟨round, table⟩, List.mem_append_right _ (List.mem_map_of_mem htable), hn.symm⟩
      · obtain ⟨r, hr, hrn⟩ := (h.occurring n).2 ⟨hlow, by omega⟩
        exact ⟨r, List.mem_append_left _ hr, hrn⟩
  · intro n hlow hhigh
    by_cases hn : n = round
    · obtain ⟨table, htable, hbye⟩ := hcontested
      exact ⟨⟨round, table⟩, List.mem_append_right _ (List.mem_map_of_mem htable), hn.symm, hbye⟩
    · obtain ⟨r, hr, hrn, hbye⟩ := h.contested n hlow (by omega)
      exact ⟨r, List.mem_append_left _ hr, hrn, hbye⟩

/-! ## Who takes part -/

theorem mem_activeIds_iff
    (t : Tournament)
    (id : PlayerId) :
    id ∈ t.activeIds ↔ ∃ p ∈ t.players, p.removed = false ∧ p.id = id := by
  simp [Tournament.activeIds, Tournament.activePlayers, and_assoc]

theorem activeIds_sublist (t : Tournament) : t.activeIds.Sublist t.ids :=
  List.filter_sublist.map Player.id

theorem Coherent.activeIds_nodup
    {t : Tournament}
    (h : Coherent t) :
    t.activeIds.Nodup :=
  (activeIds_sublist t).nodup h.roster.ids_nodup

theorem Coherent.byeId_not_mem
    {t : Tournament}
    (h : Coherent t) :
    byeId ∉ t.activeIds :=
  fun hin => h.roster.byeId_not_mem ((activeIds_sublist t).subset hin)

/-- A new round of a coherent tournament is coherent, and in it two players meet. -/
theorem Coherent.drawTables
    {t : Tournament}
    (h : Coherent t)
    {draw : Draw}
    (hdraw : draw.Fair)
    {allowRepair : Bool}
    {tables : List Table}
    (hdrawn : t.drawTables draw allowRepair = .ok tables) :
    RoundCoherent t.ids tables ∧ ∃ table ∈ tables, table.isBye = false := by
  obtain ⟨hseats, _⟩ := drawTables_seats hdraw h.activeIds_nodup h.byeId_not_mem hdrawn
  refine ⟨.of_seats hseats h.activeIds_nodup (activeIds_sublist t).subset, ?_⟩
  -- two active players cannot both be left over
  have hcount : 2 ≤ t.activeIds.length := by
    simpa [Tournament.activeIds, Tournament.playerCount, minPlayers] using
      (drawTables_search hdrawn).1
  by_contra hall
  push Not at hall
  have hbyes : ∀ table ∈ tables, table.isBye = true := by
    simpa using hall
  have hlength : (occupied tables).length = tables.length := by
    rw [occupied, List.length_flatMap]
    rw [List.map_congr_left (g := fun _ => 1) fun table htable => by
      simp [Table.occupants, hbyes table htable]]
    simp
  have hcountP : tables.countP Table.isBye = tables.length :=
    List.countP_eq_length.2 hbyes
  have := hseats.occupants.length_eq
  have := hseats.byes
  omega

/-! ## Names -/

/-- Only adding a player changes the names on the roster. -/
theorem Effect.names_eq
    {t : Tournament}
    {draw : Draw}
    {verb : Verb}
    {s : Step}
    (h : Effect t draw verb s)
    (hverb : ∀ name, verb ≠ .add name) :
    s.tournament.names = t.names := by
  cases h with
  | added visible unfinished new => exact absurd rfl (hverb _)
  | removed found number active => simp [Step.silent, Tournament.names, found]
  | _ => rfl

/-- A player who is added comes last. -/
theorem names_of_addPlayer
    {t t' : Tournament}
    {name : String}
    {id : PlayerId}
    (h : t.addPlayer name = .ok (t', id)) :
    t'.names = t.names ++ [name] := by
  obtain ⟨-, -, -, heq⟩ := addPlayer_eq_ok h
  cases heq
  simp [Tournament.names]

/-! ## Steps and runs -/

theorem Coherent.empty : Coherent Tournament.empty := by
  refine ⟨⟨rfl, rfl, by simp [Tournament.empty], by simp [Tournament.empty]⟩, ?_, ?_, ?_, ?_, ?_⟩
  · simp [Tournament.empty]
  · simp [Tournament.empty]
  · exact RoundCoherent.nil _
  · simp [Tournament.empty]
  · exact HistoryCoherent.nil _ (by decide)

/-- A change of the roster that keeps all numbers keeps the tournament coherent. -/
theorem Coherent.withRoster
    {t u : Tournament}
    (h : Coherent t)
    (hroster : RosterCoherent u.players u.lastId)
    (hids : t.ids ⊆ u.ids)
    (hphase : u.phase = t.phase)
    (hround : u.round = t.round)
    (htables : u.tables = t.tables)
    (hhistory : u.history = t.history) :
    Coherent u := by
  refine ⟨hroster, ?_, ?_, ?_, ?_, ?_⟩
  · rw [hphase, hround]
    exact h.unstarted
  · rw [hround, htables, hhistory]
    exact h.untouched
  · rw [htables]
    exact h.current.mono hids
  · rw [htables]
    exact h.contested
  · rw [hround, hhistory]
    exact h.past.mono hids

/-- A tournament that is on has a current round. -/
theorem Coherent.round_pos
    {t : Tournament}
    (h : Coherent t)
    (hphase : t.phase = .inProgress) :
    1 ≤ t.round := by
  have hne : ¬ t.round = 0 := by
    rw [← h.unstarted, hphase]
    decide
  omega

/-- Every verb keeps a tournament coherent. -/
theorem Coherent.step
    {t : Tournament}
    (h : Coherent t)
    {draw : Draw}
    (hdraw : draw.Fair)
    {verb : Verb}
    {s : Step}
    (heffect : Effect t draw verb s) :
    Coherent s.tournament := by
  cases heffect with
  | added visible unfinished new =>
      refine h.withRoster (h.roster.add visible new) ?_ rfl rfl rfl rfl
      simp [Tournament.ids]
  | @removed id before after p found number active =>
      have hids : (before ++ { p with removed := true } :: after).map Player.id =
          t.players.map Player.id := by
        simp [found]
      have hnames : (before ++ { p with removed := true } :: after).map Player.name =
          t.players.map Player.name := by
        simp [found]
      refine h.withRoster (h.roster.congr hids hnames) ?_ rfl rfl rfl rfl
      intro id hid
      rw [Tournament.ids] at hid ⊢
      exact hids.symm ▸ hid
  | @started tables phase drawn =>
      obtain ⟨hcurrent, hcontested⟩ := h.drawTables hdraw drawn
      have hzero : t.round = 0 := h.unstarted.1 phase
      refine ⟨h.roster, ?_, ?_, hcurrent, fun _ => hcontested, ?_⟩
      · simp [Step.silent]
      · simp [Step.silent]
      · have hnone := (h.untouched hzero).2
        simp only [Step.silent, hnone]
        exact HistoryCoherent.nil _ (Nat.le_refl 1)
  | @paired allowRepair tables phase undecided drawn =>
      obtain ⟨hcurrent, hcontested⟩ := h.drawTables hdraw drawn
      refine ⟨h.roster, h.unstarted, ?_, hcurrent, fun _ => hcontested, h.past⟩
      intro hzero
      have := h.round_pos phase
      simp only [Step.silent] at hzero
      omega
  | closed phase seated decided =>
      have hpos := h.round_pos phase
      refine ⟨h.roster, ?_, ?_, RoundCoherent.nil _, ?_, ?_⟩
      · simp [Step.silent, phase]
      · simp [Step.silent]
      · simp [Step.silent]
      · exact h.past.close hpos h.current decided (h.contested seated)
  | @recorded id score before after table phase some_game few_games known found first_table
      involved no_bye =>
      have hgames : ∀ entered : Score,
          entered = (if table.first = id then score else score.reversed) →
            entered.games = score.games := by
        rintro entered rfl
        split
        · rfl
        · simp [Score.games, Score.reversed]
          omega
      have hcurrent := h.current
      rw [found] at hcurrent
      refine ⟨h.roster, h.unstarted, ?_, ?_, ?_, h.past⟩
      · intro hzero
        have := h.round_pos phase
        simp only [Step.silent] at hzero
        omega
      · refine hcurrent.enter no_bye ?_ ?_
        · rw [hgames _ rfl]
          exact some_game
        · rw [hgames _ rfl]
          exact few_games
      · intro _
        exact ⟨_, List.mem_append_right _ List.mem_cons_self, no_bye⟩
  | ranked =>
      exact h.withRoster h.roster (fun _ hid => hid) rfl rfl rfl rfl
  | finished phase =>
      refine ⟨h.roster, ?_, h.untouched, h.current, h.contested, h.past⟩
      have := h.round_pos phase
      simp [Step.silent]
      omega

/-- Every tournament that verbs make out of the empty one is coherent. -/
theorem Reachable.coherent
    {t : Tournament}
    (h : Reachable t) :
    Coherent t := by
  induction h with
  | empty => exact Coherent.empty
  | step _ hdraw hperform ih => exact ih.step hdraw (perform_effect hperform)

/-- The numbers of players, seats and rounds fit together in every tournament that verbs make out of
the empty one. -/
theorem reachable_structure
    {t : Tournament}
    (h : Reachable t) :
    (∀ (i : Nat) (hi : i < t.players.length), t.players[i].id = i + 1) ∧
      t.lastId = t.players.length ∧
      t.names.Nodup ∧
      (∀ p ∈ t.players, Text.isBlank p.name = false) ∧
      (t.phase = .notStarted ↔ t.round = 0) ∧
      (t.round = 0 → t.tables = [] ∧ t.history = []) ∧
      RoundCoherent t.ids t.tables ∧
      (∀ n, RoundCoherent t.ids (tablesOf t.history n)) ∧
      (∀ r ∈ t.history, r.table.score.isSome = true) ∧
      (t.history.map Played.round).Pairwise (· ≤ ·) ∧
      (∀ n, (∃ r ∈ t.history, r.round = n) ↔ 1 ≤ n ∧ n < t.round) ∧
      ∀ n, 1 ≤ n → n < t.round → ∃ r ∈ t.history, r.round = n ∧ r.table.isBye = false := by
  have hc := h.coherent
  refine ⟨?_, hc.roster.last, hc.roster.distinct, hc.roster.visible, hc.unstarted, hc.untouched,
    hc.current, hc.past.each, hc.past.decided, hc.past.ordered, hc.past.occurring,
    hc.past.contested⟩
  intro i hi
  have hi' : i < (t.players.map Player.id).length := by
    rw [List.length_map]
    exact hi
  have hnumber : (t.players.map Player.id)[i] = (i : PlayerId) + 1 := by
    simp only [hc.roster.numbered, List.getElem_map, List.getElem_range']
    lia
  simpa using hnumber

/-- Three players who have not started. -/
def threePlayers : Tournament :=
  ⟨.notStarted, 0, 3, [⟨1, "Ann", false⟩, ⟨2, "Bob", false⟩, ⟨3, "Cid", false⟩], [], [], []⟩

/-- The three players after a round, in which the third had the bye. -/
def oneRoundPlayed : Tournament :=
  { threePlayers with
    phase := .inProgress
    round := 2
    history := [⟨1, ⟨1, 2, some ⟨2, 1, 0⟩⟩⟩, ⟨1, .bye 3⟩] }

theorem Draw.fair_id : Draw.Fair id :=
  fun _ => .refl _

/-- One more verb, with a draw that keeps the order. -/
theorem Reachable.next
    {t : Tournament}
    (h : Reachable t)
    (verb : Verb)
    {s : Step}
    (hperform : t.perform id verb = .ok s) :
    Reachable s.tournament :=
  h.step Draw.fair_id hperform

theorem threePlayers_reachable : Reachable threePlayers := by
  have hann := Reachable.empty.next (.add "Ann") rfl
  have hbob := hann.next (.add "Bob") rfl
  exact hbob.next (.add "Cid") rfl

/-- The three players in their first round, in which the third has the bye. -/
def threeStarted : Tournament :=
  { threePlayers with phase := .inProgress, round := 1, tables := [.fresh 1 2, .bye 3] }

theorem threePlayers_start : threePlayers.perform id .start = .ok (.silent threeStarted) := by
  have hdrawn : threePlayers.drawTables id false = .ok [.fresh 1 2, .bye 3] := by
    simp only [Tournament.drawTables, search_eq]
    rfl
  simp only [Tournament.perform_eq, Tournament.start_eq, hdrawn]
  rfl

theorem threeStarted_reachable : Reachable threeStarted :=
  threePlayers_reachable.next .start threePlayers_start

theorem oneRoundPlayed_reachable : Reachable oneRoundPlayed := by
  have hrecord := threeStarted_reachable.next (.record 2 ⟨1, 2, 0⟩) rfl
  exact hrecord.next .nextRound rfl

theorem reachable_structure_oneRoundPlayed :
    Reachable oneRoundPlayed ∧
      oneRoundPlayed.names.Nodup ∧
      RoundCoherent oneRoundPlayed.ids (tablesOf oneRoundPlayed.history 1) ∧
      ∀ n, (∃ r ∈ oneRoundPlayed.history, r.round = n) ↔ 1 ≤ n ∧ n < 2 := by
  obtain ⟨_, _, hnames, _, _, _, _, heach, _, _, hrounds, _⟩ :=
    reachable_structure oneRoundPlayed_reachable
  exact ⟨oneRoundPlayed_reachable, hnames, heach 1, hrounds⟩

end Swiss
end TournamentDesk
