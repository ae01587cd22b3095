import TournamentDesk.Proofs.Swiss.Backtracking
import TournamentDesk.Proofs.Swiss.NewRound

/-!
# When a round needs no rematch

Players can be paired without a rematch when they can be put in couples that have not met, after one of
them has been given the bye if their number is odd. A round that is to have no rematch is refused only
for want of such couples, unless the budget of the search is spent, and for a dozen players it never is.

* `Matchable`, `HasRound`: what it means that there are such couples.
* `search_left_pos`: the budget is more than a dozen players can use up.
* `noValidPairing_conclusive`: a refusal with budget left is right.
-/

namespace TournamentDesk
namespace Swiss

/-- Players can be put in couples of players who have not met in finished rounds. -/
def Matchable (history : List Played) (ids : List PlayerId) : Prop :=
  ∃ matching : List (PlayerId × PlayerId),
    (matching.flatMap fun c => [c.1, c.2]).Perm ids ∧
      ∀ c ∈ matching, ¬ HaveMet history c.1 c.2

/-- There is a round without rematches: for an even number of players all of them are matched, for an odd
number all but one, who has the bye. -/
def HasRound (history : List Played) (ids : List PlayerId) : Prop :=
  if ids.length % 2 = 0 then Matchable history ids
  else ∃ bye ∈ ids, Matchable history (ids.erase bye)

theorem Matchable.perm
    {history : List Played}
    {ids others : List PlayerId}
    (h : Matchable history ids)
    (hperm : ids.Perm others) :
    Matchable history others := by
  obtain ⟨matching, hseats, hnew⟩ := h
  exact ⟨matching, hseats.trans hperm, hnew⟩

theorem HasRound.perm
    {history : List Played}
    {ids others : List PlayerId}
    (h : HasRound history ids)
    (hperm : ids.Perm others) :
    HasRound history others := by
  unfold HasRound at h ⊢
  rw [← hperm.length_eq]
  split at h
  · next heven =>
    rw [if_pos heven]
    exact h.perm hperm
  · next hodd =>
    rw [if_neg hodd]
    obtain ⟨bye, hbye, hrest⟩ := h
    exact ⟨bye, hperm.subset hbye, hrest.perm (hperm.erase bye)⟩

/-- The couples of a matching are the tables that a search without rematches looks for. -/
theorem matchable_iff_pairs
    (history : List Played)
    (ids : List PlayerId) :
    Matchable history ids ↔ ∃ tables, Pairs (unmet history) ids tables := by
  constructor
  · rintro ⟨matching, hseats, hnew⟩
    refine ⟨matching.map fun c => Table.fresh c.1 c.2, ?_, ?_, ?_⟩
    · rw [List.flatMap_map]
      exact hseats
    · intro t ht
      obtain ⟨c, -, rfl⟩ := List.mem_map.1 ht
      rfl
    · intro t ht
      obtain ⟨c, hc, rfl⟩ := List.mem_map.1 ht
      exact (unmet_iff history _ _).2 (hnew c hc)
  · rintro ⟨tables, hpairs⟩
    refine ⟨tables.map fun t => (t.first, t.second), ?_, ?_⟩
    · rw [List.flatMap_map]
      exact hpairs.seats
    · intro c hc
      obtain ⟨t, ht, rfl⟩ := List.mem_map.1 hc
      exact (unmet_iff history _ _).1 (hpairs.allowed t ht)

theorem meetings_symm
    (history : List Played)
    (a b : PlayerId) :
    (meetings history).contains (couple a b) = (meetings history).contains (couple b a) :=
  metIn_symm (meetings history) a b

/-! ## The search of a round -/

theorem hasRound_of_search
    {t : Tournament}
    {field : List PlayerId}
    {tables : List Table}
    (hnodup : field.Nodup)
    (h : (t.search field false).tables = some tables) :
    HasRound t.history field := by
  unfold Tournament.search at h
  unfold HasRound
  simp only at h
  split at h
  · next heven =>
    rw [if_pos heven]
    exact (matchable_iff_pairs _ _).2 ⟨_, pairUp_pairs h⟩
  · next hodd =>
    rw [if_neg hodd]
    obtain ⟨bye, hbye, rest, -, hpairs⟩ := pairWithBye_pairs h
    rw [filter_ne_eq_erase hnodup] at hpairs
    exact ⟨bye, (byeCandidates_perm _ _).subset hbye, (matchable_iff_pairs _ _).2 ⟨_, hpairs⟩⟩

theorem not_hasRound_of_search
    {t : Tournament}
    {field : List PlayerId}
    (hnodup : field.Nodup)
    (hnone : (t.search field false).tables = none)
    (hpos : 0 < (t.search field false).left) :
    ¬ HasRound t.history field := by
  have hsymm := meetings_symm t.history
  unfold Tournament.search at hnone hpos
  unfold HasRound
  simp only at hnone hpos
  split at hnone
  · next heven =>
    rw [if_pos heven] at hpos ⊢
    rw [matchable_iff_pairs]
    exact pairUp_conclusive hsymm false hnodup _ hnone hpos
  · next hodd =>
    rw [if_neg hodd] at hpos ⊢
    rintro ⟨bye, hbye, hrest⟩
    rw [← filter_ne_eq_erase hnodup, matchable_iff_pairs] at hrest
    have hcandidate := (byeCandidates_perm t.history field).symm.subset hbye
    exact pairWithBye_conclusive hsymm hnodup hnone hpos hcandidate hrest

/-- A search for a dozen players tries fewer opponents than its budget allows, whoever has met. -/
theorem search_left_pos
    (t : Tournament)
    {field : List PlayerId}
    (hlength : field.length ≤ 12)
    (allowRematch : Bool) :
    0 < (t.search field allowRematch).left := by
  have hbudget : searchBudget = 100000 := rfl
  unfold Tournament.search
  simp only
  split
  · have hspent := pairUp_spends
      (fun a b => (meetings t.history).contains (couple a b)) allowRematch hlength searchBudget
    have hmost : mostTries 12 = 25058 := rfl
    omega
  · next hodd =>
    have hbyes := (byeCandidates_perm t.history field).length_eq
    have hrest : ∀ bye ∈ byeCandidates t.history field,
        (field.filter fun id => id ≠ bye).length ≤ 10 := by
      intro bye hbye
      have hmem := (byeCandidates_perm t.history field).subset hbye
      have hshorter : (field.filter fun id => id ≠ bye).length < field.length :=
        List.length_filter_lt_length_iff_exists.2 ⟨bye, hmem, by simp⟩
      omega
    have hspent := pairWithBye_spends
      (fun a b => (meetings t.history).contains (couple a b)) allowRematch hrest searchBudget
    have hmost : mostTries 10 = 2277 := rfl
    rw [hmost, hbyes] at hspent
    omega

/-! ## Refusals -/

/-- Pairing a round without rematches is the search. -/
theorem pair_eq_search
    {t : Tournament}
    (hphase : t.phase = .inProgress)
    (hresults : t.hasResults = false)
    (hcount : minPlayers ≤ t.playerCount)
    (draw : Draw) :
    t.pair draw false =
      (t.search (t.field draw) false).tables.elim (.error .noValidPairing)
        fun tables => .ok { t with tables } := by
  have hdrawn : t.drawTables draw false =
      (t.search (t.field draw) false).tables.elim (.error .noValidPairing) .ok := by
    unfold Tournament.drawTables
    rw [if_neg (Nat.not_lt.2 hcount)]
    simp only
    cases (t.search (t.field draw) false).tables <;> rfl
  rw [Tournament.pair_eq]
  rw [require_of_phase hphase, hresults, hdrawn]
  cases (t.search (t.field draw) false).tables <;> rfl

theorem pair_eq_resultsAlreadyRecorded
    {t : Tournament}
    (hphase : t.phase = .inProgress)
    (hresults : t.hasResults = true)
    (draw : Draw)
    (allowRepair : Bool) :
    t.pair draw allowRepair = .error (.resultsAlreadyRecorded t.round) := by
  rw [Tournament.pair_eq]
  rw [require_of_phase hphase, hresults]
  rfl

/-- When a tournament that is on refuses to pair a round without rematches, and its search has not used up
the budget, then there is no such round. With no more than a dozen players left the budget lasts whatever
the finished rounds were, so that there the round is refused exactly when there is none. -/
theorem noValidPairing_conclusive
    {t : Tournament}
    (h : Reachable t)
    (hphase : t.phase = .inProgress)
    (hcount : minPlayers ≤ t.playerCount)
    {draw : Draw}
    (hdraw : draw.Fair) :
    (t.pair draw false = .error .noValidPairing → 0 < (t.search (t.field draw) false).left →
      ¬ HasRound t.history t.activeIds) ∧
    (t.playerCount ≤ 12 →
      (∀ history, let u := { t with history }
        0 < (u.search (u.field draw) false).left) ∧
      (t.hasResults = false →
        ((∃ t', t.pair draw false = .ok t') ↔ HasRound t.history t.activeIds))) := by
  have hperm := field_perm hdraw t
  have hnodup : (t.field draw).Nodup := hperm.nodup_iff.2 h.coherent.activeIds_nodup
  constructor
  · intro hrefused hpos hround
    have hresults : t.hasResults = false := by
      rw [← Bool.not_eq_true]
      intro hresults
      rw [pair_eq_resultsAlreadyRecorded hphase hresults] at hrefused
      cases hrefused
    rw [pair_eq_search hphase hresults hcount] at hrefused
    have hnone : (t.search (t.field draw) false).tables = none := by
      cases htables : (t.search (t.field draw) false).tables with
      | none => rfl
      | some tables =>
          rw [htables] at hrefused
          cases hrefused
    exact not_hasRound_of_search hnodup hnone hpos (hround.perm hperm.symm)
  · intro hfew
    have hleft : ∀ u : Tournament, u.players = t.players →
        0 < (u.search (u.field draw) false).left := by
      intro u hu
      refine search_left_pos u ?_ false
      rw [(field_perm hdraw u).length_eq, Tournament.activeIds, Tournament.activePlayers,
        List.length_map, hu]
      exact hfew
    refine ⟨fun history => hleft _ rfl, ?_⟩
    intro hresults
    rw [pair_eq_search hphase hresults hcount]
    cases htables : (t.search (t.field draw) false).tables with
    | none =>
        have hnone := not_hasRound_of_search hnodup htables (hleft t rfl)
        constructor
        · rintro ⟨t', hok⟩
          cases hok
        · intro hround
          exact absurd (hround.perm hperm.symm) hnone
    | some tables =>
        exact ⟨fun _ => (hasRound_of_search hnodup htables).perm hperm, fun _ => ⟨_, rfl⟩⟩

/-- Two players who have met, after the others have left. -/
def twoLeft : Tournament :=
  { fourDrawn with
    players := [⟨1, "Ann", false⟩, ⟨2, "Bob", false⟩, ⟨3, "Cid", true⟩, ⟨4, "Dee", true⟩] }

theorem twoLeft_reachable : Reachable twoLeft := by
  have hdee := fourDrawn_reachable.next (.remove 4) rfl
  exact hdee.next (.remove 3) rfl

theorem twoLeft_field : twoLeft.field id = [1, 2] := by
  have hsorted : seeded twoLeft.history [1, 2] = [1, 2] := by
    rw [seeded, List.mergeSort_of_pairwise (by decide)]
    rfl
  exact hsorted

/-- The two are given up before anybody is tried. -/
theorem twoLeft_search : twoLeft.search (twoLeft.field id) false = ⟨none, searchBudget⟩ := by
  rw [search_eq, twoLeft_field]
  rfl

theorem noValidPairing_conclusive_twoLeft :
    Reachable twoLeft ∧
      twoLeft.phase = .inProgress ∧
      minPlayers ≤ twoLeft.playerCount ∧
      Draw.Fair id ∧
      twoLeft.pair id false = .error .noValidPairing ∧
      0 < (twoLeft.search (twoLeft.field id) false).left ∧
      ¬ HasRound twoLeft.history twoLeft.activeIds ∧
      twoLeft.playerCount ≤ 12 ∧
      twoLeft.hasResults = false ∧
      ((∃ t', twoLeft.pair id false = .ok t') ↔ HasRound twoLeft.history twoLeft.activeIds) := by
  have hcount : minPlayers ≤ twoLeft.playerCount := by decide
  have hrefused : twoLeft.pair id false = .error .noValidPairing := by
    rw [pair_eq_search rfl rfl hcount, twoLeft_search]
    rfl
  have hpos : 0 < (twoLeft.search (twoLeft.field id) false).left := by
    rw [twoLeft_search]
    decide
  obtain ⟨hconclusive, hfew⟩ :=
    noValidPairing_conclusive twoLeft_reachable rfl hcount Draw.fair_id
  exact ⟨twoLeft_reachable, rfl, hcount, Draw.fair_id, hrefused, hpos, hconclusive hrefused hpos,
    by decide, rfl, (hfew (by decide)).2 rfl⟩

end Swiss
end TournamentDesk
