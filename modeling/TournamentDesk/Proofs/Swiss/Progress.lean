import TournamentDesk.Proofs.Swiss.NewRound
import TournamentDesk.Proofs.Swiss.Places
import TournamentDesk.Proofs.Swiss.Search

/-!
# A tournament can always go on

A search that need not look at who has met pairs its field on the first try. It spends one unit of its
budget on each table, so that the budget lasts for twice as many players, and for one more who has the bye.
With fewer players the first round can be drawn whatever the lot says, a later round can be paired at
least with rematches, and from there on no result and no closing of a round is refused, whoever has left
in between.

* `pairUp_all`, `pairWithBye_all`: a field in which all may meet is paired in couples of neighbours.
* `drawTables_all`: a round is drawn before anybody has met, or when rematches are allowed.
* `never_stuck`: what can be asked next of a tournament.
-/

namespace TournamentDesk
namespace Swiss

/-! ## Fields in which all may meet -/

/-- The tables at which the first player of a field meets the second, the third the fourth, and so on. -/
def adjacent : List PlayerId → List Table
  | first :: second :: rest => Table.fresh first second :: adjacent rest
  | _ => []

section Searches

variable {mayMeet : Rule} (hall : ∀ a b, mayMeet a b = true)
include hall

theorem hasStranded_all
    {first second : PlayerId}
    {rest : List PlayerId}
    (hne : first ≠ second) :
    hasStranded mayMeet (first :: second :: rest) = false := by
  have hothers : ∀ a ∈ first :: second :: rest, ∃ b ∈ first :: second :: rest, a ≠ b := by
    intro a _
    by_cases ha : a = first
    · exact ⟨second, by simp, ha ▸ hne⟩
    · exact ⟨first, by simp, ha⟩
  rw [hasStranded, List.any_eq_false]
  intro a ha
  obtain ⟨b, hb, hab⟩ := hothers a ha
  have hsomebody : (first :: second :: rest).any (fun b => a ≠ b && mayMeet a b) = true :=
    List.any_eq_true.2 ⟨b, hb, by simp [hab, hall]⟩
  rw [hsomebody]
  decide

/-- The first player meets the second, and so on down the field, if the budget is enough. That the players
are distinct matters only where a field may be given up. -/
theorem pairWithin_all
    {prune : Bool}
    {size : Nat}
    {field : List PlayerId}
    (hnodup : prune = true → field.Nodup)
    (heven : field.length % 2 = 0)
    (hsize : field.length ≤ size)
    (budget : Nat) :
    pairWithin mayMeet prune size field budget =
      if field.length ≤ 2 * budget then ⟨some (adjacent field), budget - field.length / 2⟩
      else ⟨none, 0⟩ := by
  induction size generalizing field budget with
  | zero =>
      obtain rfl : field = [] := List.length_eq_zero_iff.1 (Nat.le_zero.1 hsize)
      simp [pairWithin, adjacent]
  | succ size ih =>
      rcases field with _ | ⟨first, _ | ⟨second, rest⟩⟩
      · simp [pairWithin, adjacent]
      · simp at heven
      simp only [List.length_cons] at heven hsize ⊢
      have hrest : prune = true → rest.Nodup := fun hprune =>
        (List.nodup_cons.1 (List.nodup_cons.1 (hnodup hprune)).2).2
      have hkept : ¬ (prune && hasStranded mayMeet (first :: second :: rest)) = true := by
        rw [Bool.and_eq_true]
        rintro ⟨hprune, hstranded⟩
        have hne : first ≠ second := by
          rintro rfl
          simpa using hnodup hprune
        rw [hasStranded_all hall hne] at hstranded
        cases hstranded
      cases budget with
      | zero => simp [pairWithin_spent]
      | succ budget =>
          have hpaired := ih hrest (by omega) (by omega) budget
          rw [pairWithin, if_neg hkept, tryOpponents, if_pos (hall first second)]
          simp only [List.reverse_nil, List.nil_append, hpaired]
          by_cases hbudget : rest.length ≤ 2 * budget
          · rw [if_pos hbudget, if_pos (by omega)]
            simp only [adjacent, Outcome.mk.injEq, true_and]
            omega
          · -- with the budget spent on these two, nobody else is tried
            rw [if_neg hbudget, if_neg (by omega)]
            exact tryOpponents_spent _ _ _ _ _

end Searches

section Rounds

variable {haveMet : Rule} {allowRematch : Bool}
  (hall : ∀ a b, (allowRematch || !haveMet a b) = true)
include hall

theorem pairUp_all
    {field : List PlayerId}
    (hnodup : allowRematch = false → field.Nodup)
    (heven : field.length % 2 = 0)
    (budget : Nat) :
    pairUp haveMet allowRematch field budget =
      if field.length ≤ 2 * budget then ⟨some (adjacent field), budget - field.length / 2⟩
      else ⟨none, 0⟩ := by
  refine pairWithin_all hall ?_ heven (Nat.le_refl _) budget
  rwa [Bool.not_eq_true']

/-- The first player who is tried for the bye has it, if the budget is enough. -/
theorem pairWithBye_all
    {field others : List PlayerId}
    {bye : PlayerId}
    (hnodup : field.Nodup)
    (hodd : field.length % 2 = 1)
    (hbyes : (bye :: others).Perm field)
    (budget : Nat) :
    (pairWithBye haveMet allowRematch field (bye :: others) budget).tables =
      if field.length ≤ 2 * budget + 1 then some (adjacent (field.erase bye) ++ [Table.bye bye])
      else none := by
  have hlength : ∀ id ∈ field, (field.filter fun other => other ≠ id).length = field.length - 1 := by
    intro id hid
    rw [filter_ne_eq_erase hnodup, List.length_erase_of_mem hid]
  have hbye := hlength bye (hbyes.subset List.mem_cons_self)
  have heven : (field.filter fun id => id ≠ bye).length % 2 = 0 := by omega
  have hpaired := pairUp_all hall (fun _ => hnodup.filter _) heven budget
  rw [hbye] at hpaired
  unfold pairWithBye
  rw [hpaired]
  by_cases hbudget : field.length ≤ 2 * budget + 1
  · rw [if_pos hbudget, if_pos (by omega), filter_ne_eq_erase hnodup]
  · rw [if_neg hbudget, if_neg (by omega)]
    simp only
    rw [pairWithBye_spent]
    intro other hother hnobody
    have hrest := hlength other (hbyes.subset (List.mem_cons_of_mem _ hother))
    rw [hnobody] at hrest
    simp only [List.length_nil] at hrest
    omega

end Rounds

/-! ## New rounds -/

/-- A round can be searched for when nobody has met yet or rematches are allowed. -/
theorem search_all
    {t : Tournament}
    {allowRematch : Bool}
    (hfree : allowRematch = true ∨ t.history = [])
    {field : List PlayerId}
    (hnodup : field.Nodup)
    (hbudget : field.length ≤ 2 * searchBudget + 1) :
    ∃ tables, (t.search field allowRematch).tables = some tables := by
  have hall : ∀ a b,
      (allowRematch || !(meetings t.history).contains (couple a b)) = true := by
    intro a b
    rcases hfree with rfl | hnone
    · rfl
    · rw [meetings_contains, hnone]
      simp [couples]
  unfold Tournament.search
  simp only
  split
  · next heven =>
    rw [pairUp_all hall (fun _ => hnodup) heven, if_pos (by omega)]
    exact ⟨_, rfl⟩
  · next hodd =>
    obtain ⟨bye, others, hbyes⟩ : ∃ bye others, byeCandidates t.history field = bye :: others := by
      refine List.exists_cons_of_length_pos ?_
      rw [(byeCandidates_perm t.history field).length_eq]
      omega
    rw [hbyes, pairWithBye_all hall hnodup (by omega) (hbyes ▸ byeCandidates_perm t.history field),
      if_pos hbudget]
    exact ⟨_, rfl⟩

theorem drawTables_all
    {t : Tournament}
    (hc : Coherent t)
    (hfew : minPlayers ≤ t.playerCount)
    (hmany : t.playerCount ≤ 2 * searchBudget + 1)
    {draw : Draw}
    (hdraw : draw.Fair)
    {allowRepair : Bool}
    (hfree : allowRepair = true ∨ t.history = []) :
    ∃ tables, t.drawTables draw allowRepair = .ok tables := by
  have hperm := field_perm hdraw t
  have hnodup : (t.field draw).Nodup := hperm.nodup_iff.2 hc.activeIds_nodup
  have hlength : (t.field draw).length ≤ 2 * searchBudget + 1 := by
    rw [hperm.length_eq, Tournament.activeIds, List.length_map]
    exact hmany
  unfold Tournament.drawTables
  rw [if_neg (Nat.not_lt.2 hfew)]
  simp only
  cases hplain : (t.search (t.field draw) false).tables with
  | some tables => exact ⟨tables, rfl⟩
  | none =>
      rcases hfree with rfl | hnone
      · obtain ⟨tables, hagain⟩ : ∃ tables, (t.search (t.field draw) true).tables = some tables :=
          search_all (.inl rfl) hnodup hlength
        exact ⟨tables, by rw [hagain]; rfl⟩
      · obtain ⟨tables, hfound⟩ : ∃ tables, (t.search (t.field draw) false).tables = some tables :=
          search_all (.inr hnone) hnodup hlength
        rw [hplain] at hfound
        cases hfound

theorem start_succeeds
    {t : Tournament}
    (hc : Coherent t)
    (hphase : t.phase = .notStarted)
    (hfew : minPlayers ≤ t.playerCount)
    (hmany : t.playerCount ≤ 2 * searchBudget + 1)
    {draw : Draw}
    (hdraw : draw.Fair) :
    ∃ t', t.start draw = .ok t' := by
  have hnone : t.history = [] := (hc.untouched (hc.unstarted.1 hphase)).2
  obtain ⟨tables, hdrawn⟩ := drawTables_all hc hfew hmany hdraw (.inr hnone)
  rw [Tournament.start_eq]
  rw [require_of_phase hphase, hdrawn]
  exact ⟨_, rfl⟩

theorem pair_succeeds
    {t : Tournament}
    (hc : Coherent t)
    (hphase : t.phase = .inProgress)
    (hempty : t.tables = [])
    (hfew : minPlayers ≤ t.playerCount)
    (hmany : t.playerCount ≤ 2 * searchBudget + 1)
    {draw : Draw}
    (hdraw : draw.Fair) :
    ∃ t', t.pair draw true = .ok t' := by
  have hresults : t.hasResults = false := by
    rw [Tournament.hasResults, hempty]
    rfl
  obtain ⟨tables, hdrawn⟩ := drawTables_all hc hfew hmany hdraw (.inl rfl)
  rw [Tournament.pair_eq]
  rw [require_of_phase hphase, hresults, hdrawn]
  exact ⟨_, rfl⟩

/-! ## Results -/

/-- A table without a result has two players. -/
theorem RoundCoherent.not_isBye
    {ids : List PlayerId}
    {tables : List Table}
    (h : RoundCoherent ids tables)
    {table : Table}
    (htable : table ∈ tables)
    (hopen : table.score = none) :
    table.isBye = false := by
  rw [← Bool.not_eq_true]
  intro hbye
  have hscore := h.byeScore table htable hbye
  rw [hopen] at hscore
  cases hscore

/-- A table that is not decided takes a result from either of its players, and no other table changes. -/
theorem recordResult_succeeds
    {t : Tournament}
    (hc : Coherent t)
    (hphase : t.phase = .inProgress)
    {before after : List Table}
    {table : Table}
    (hfound : t.tables = before ++ table :: after)
    (hopen : table.score = none)
    {id : PlayerId}
    (hid : id = table.first ∨ id = table.second)
    {score : Score}
    (hsome : 1 ≤ score.games)
    (hfew : score.games ≤ 99) :
    t.recordResult id score =
      .ok { t with
        tables := before ++
          { table with score := some (if table.first = id then score else score.reversed) } ::
            after } := by
  have hplace : t.tables[before.length]? = some table := by simp [hfound]
  have hbye := hc.current.not_isBye (List.mem_of_getElem? hplace) hopen
  have hseat : id ∈ table.occupants := by
    rw [Table.occupants_of_not_isBye hbye]
    simpa [Table.seats] using hid
  have hknown := isNone_findPlayer (hc.mem_ids hplace hseat)
  have hscore : Tournament.checkScore score = .ok () := by
    have hnot : ¬ score.games = 0 := by omega
    rw [Tournament.checkScore, if_neg hnot]
    exact if_pos hfew
  have hafter : t.tables.set before.length (table.scored id score) =
      before ++ table.scored id score :: after := by
    simp [hfound]
  have hentered := enterScore_of_seated (hc.sitsAt hplace hseat) score
  rw [hbye, if_neg Bool.false_ne_true, hafter] at hentered
  rw [Tournament.recordResult_eq]
  rw [require_of_phase hphase, hscore, hknown, hentered]
  rfl

theorem nextRound_succeeds
    {t : Tournament}
    (hphase : t.phase = .inProgress)
    (hseated : t.tables ≠ [])
    (hdecided : ∀ table ∈ t.tables, table.score.isSome = true) :
    ∃ t', t.nextRound = .ok t' := by
  have hnone : t.missing = 0 := by
    rw [Tournament.missing, List.countP_eq_zero]
    intro table htable hmissing
    have := hdecided table htable
    rw [Option.isNone_iff_eq_none] at hmissing
    rw [hmissing] at this
    cases this
  have hempty : ¬ t.tables.isEmpty = true := by
    rw [List.isEmpty_iff]
    exact hseated
  have hfull : ¬ 0 < t.missing := by omega
  rw [Tournament.nextRound_eq]
  rw [require_of_phase hphase, if_neg hempty, if_neg hfull]
  exact ⟨_, rfl⟩

/-- A tournament with at least two active players, and no more than the search can seat, is never stuck. It
can be started whatever the lot says, and a round can be paired when there is none. A table without a result
takes one from either of its players, also from one who has left, and no other table changes. Once all tables
have results, the round can be closed. -/
theorem never_stuck
    {t : Tournament}
    (h : Reachable t)
    (hfew : 2 ≤ t.playerCount)
    (hmany : t.playerCount ≤ 200001) :
    (t.phase = .notStarted → ∀ draw : Draw, draw.Fair → ∃ t', t.start draw = .ok t') ∧
      (t.phase = .inProgress →
        (t.tables = [] → ∀ draw : Draw, draw.Fair → ∃ t', t.pair draw true = .ok t') ∧
        (∀ before table after, t.tables = before ++ table :: after → table.score = none →
          ∀ id, id = table.first ∨ id = table.second →
            ∀ score : Score, 1 ≤ score.games → score.games ≤ 99 →
              t.recordResult id score =
                .ok { t with
                  tables := before ++
                    { table with
                      score := some (if table.first = id then score else score.reversed) } ::
                      after }) ∧
        (t.tables ≠ [] → (∀ table ∈ t.tables, table.score.isSome = true) →
          ∃ t', t.nextRound = .ok t')) := by
  have hc := h.coherent
  constructor
  · intro hphase draw hdraw
    exact start_succeeds hc hphase hfew hmany hdraw
  · intro hphase
    refine ⟨?_, ?_, ?_⟩
    · intro hempty draw hdraw
      exact pair_succeeds hc hphase hempty hfew hmany hdraw
    · intro before table after hfound hopen id hid score hsome hmost
      exact recordResult_succeeds hc hphase hfound hopen hid hsome hmost
    · intro hseated hdecided
      exact nextRound_succeeds hphase hseated hdecided

/-- The four players in their second round, after one of them has left. -/
def cidLeft : Tournament :=
  { fourDrawn with
    players := [⟨1, "Ann", false⟩, ⟨2, "Bob", false⟩, ⟨3, "Cid", true⟩, ⟨4, "Dee", false⟩]
    tables := [.fresh 1 3, .fresh 2 4] }

theorem cidLeft_reachable : Reachable cidLeft := by
  have hpaired := fourDrawn_reachable.next (.pair false) fourDrawn_pair
  exact hpaired.next (.remove 3) rfl

/-- The result of a player who has left still counts. -/
theorem never_stuck_cidLeft :
    Reachable cidLeft ∧
      2 ≤ cidLeft.playerCount ∧
      cidLeft.playerCount ≤ 200001 ∧
      cidLeft.phase = .inProgress ∧
      cidLeft.tables = [] ++ .fresh 1 3 :: [.fresh 2 4] ∧
      cidLeft.recordResult 3 ⟨0, 2, 1⟩ =
        .ok { cidLeft with tables := [⟨1, 3, some ⟨2, 0, 1⟩⟩, .fresh 2 4] } := by
  have hfew : 2 ≤ cidLeft.playerCount := by decide
  have hmany : cidLeft.playerCount ≤ 200001 := by decide
  obtain ⟨-, hround⟩ := never_stuck cidLeft_reachable hfew hmany
  obtain ⟨-, hrecord, -⟩ := hround rfl
  exact ⟨cidLeft_reachable, hfew, hmany, rfl, rfl,
    hrecord [] (.fresh 1 3) [.fresh 2 4] rfl rfl 3 (.inr rfl) ⟨0, 2, 1⟩ (by decide) (by decide)⟩

end Swiss
end TournamentDesk
