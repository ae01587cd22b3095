import TournamentDesk.Proofs.Swiss.Coherence

/-!
# A new round seats whoever still plays

Starting a tournament and pairing a round find tables by a search that may put a bye aside, back up and
start over. Whichever way the tables were found, each active player has exactly one seat at them, and
nobody else has any.

* `newRound_seats_active`: the seats, the byes and the rematches of a new round.
-/

namespace TournamentDesk
namespace Swiss

/-- The verbs that make the tables of a round. -/
def Verb.drawsTables : Verb → Bool
  | .start => true
  | .pair _ => true
  | _ => false

/-- A new round takes over the tables that were drawn, and keeps players and finished rounds. -/
theorem drawsTables_effect
    {t : Tournament}
    {draw : Draw}
    {verb : Verb}
    {s : Step}
    (hverb : verb.drawsTables = true)
    (heffect : Effect t draw verb s) :
    ∃ allowRepair,
      t.drawTables draw allowRepair = .ok s.tournament.tables ∧
        (verb ≠ .pair true → allowRepair = false) ∧
        s.tournament.players = t.players ∧
        s.tournament.history = t.history := by
  cases heffect with
  | started phase drawn =>
      exact ⟨false, drawn, fun _ => rfl, rfl, rfl⟩
  | @paired allowRepair tables phase undecided drawn =>
      refine ⟨allowRepair, drawn, ?_, rfl, rfl⟩
      intro hne
      cases allowRepair with
      | false => rfl
      | true => exact absurd rfl hne
  | added => cases hverb
  | removed => cases hverb
  | closed => cases hverb
  | recorded => cases hverb
  | ranked => cases hverb
  | finished => cases hverb

theorem newRound_seats_active
    {t : Tournament}
    (h : Reachable t)
    {draw : Draw}
    (hdraw : draw.Fair)
    {verb : Verb}
    (hverb : verb.drawsTables = true)
    {s : Step}
    (hok : t.perform draw verb = .ok s) :
    s.tournament.players = t.players ∧
      (∀ p ∈ t.players, p.removed = false → (occupied s.tournament.tables).count p.id = 1) ∧
      (∀ id ∈ occupied s.tournament.tables, ∃ p ∈ t.players, p.removed = false ∧ p.id = id) ∧
      s.tournament.tables.countP Table.isBye = t.playerCount % 2 ∧
      (verb ≠ .pair true → NoRematch t.history s.tournament.tables) := by
  have hc := h.coherent
  obtain ⟨allowRepair, hdrawn, hplain, hplayers, _⟩ :=
    drawsTables_effect hverb (perform_effect hok)
  obtain ⟨hseats, hnew⟩ := drawTables_seats hdraw hc.activeIds_nodup hc.byeId_not_mem hdrawn
  have hnodup : (occupied s.tournament.tables).Nodup :=
    hseats.occupants.nodup_iff.2 hc.activeIds_nodup
  refine ⟨hplayers, ?_, ?_, ?_, ?_⟩
  · intro p hp hactive
    have hin : p.id ∈ occupied s.tournament.tables :=
      hseats.occupants.mem_iff.2 ((mem_activeIds_iff t p.id).2 ⟨p, hp, hactive, rfl⟩)
    exact List.count_eq_one_of_mem hnodup hin
  · intro id hid
    exact (mem_activeIds_iff t id).1 (hseats.occupants.mem_iff.1 hid)
  · rw [hseats.byes]
    simp [Tournament.activeIds, Tournament.playerCount]
  · intro hne
    exact hnew (hplain hne)

/-- Four players after a round of draws. -/
def fourDrawn : Tournament :=
  { phase := .inProgress
    round := 2
    lastId := 4
    players := [⟨1, "Ann", false⟩, ⟨2, "Bob", false⟩, ⟨3, "Cid", false⟩, ⟨4, "Dee", false⟩]
    tables := []
    history := [⟨1, ⟨1, 2, some ⟨1, 1, 0⟩⟩⟩, ⟨1, ⟨3, 4, some ⟨1, 1, 0⟩⟩⟩]
    standings := [] }

/-- The four players before the start. -/
def fourPlayers : Tournament :=
  { threePlayers with lastId := 4, players := threePlayers.players ++ [⟨4, "Dee", false⟩] }

theorem fourPlayers_start :
    fourPlayers.perform id .start =
      .ok (.silent
        { fourDrawn with round := 1, tables := [.fresh 1 2, .fresh 3 4], history := [] }) := by
  simp only [Tournament.perform_eq, Tournament.start_eq, Tournament.drawTables, search_eq]
  rfl

theorem fourDrawn_reachable : Reachable fourDrawn := by
  have hdee : Reachable fourPlayers := threePlayers_reachable.next (.add "Dee") rfl
  have hstart := hdee.next .start fourPlayers_start
  have hfirst := hstart.next (.record 1 ⟨1, 1, 0⟩) rfl
  have hsecond := hfirst.next (.record 4 ⟨1, 1, 0⟩) rfl
  exact hsecond.next .nextRound rfl

/-- In the second round nobody meets the same opponent again. -/
theorem fourDrawn_pair :
    fourDrawn.perform id (.pair false) =
      .ok (.silent { fourDrawn with tables := [.fresh 1 3, .fresh 2 4] }) := by
  have hsorted : seeded fourDrawn.history [1, 2, 3, 4] = [1, 2, 3, 4] := by
    rw [seeded, List.mergeSort_of_pairwise (by decide)]
    rfl
  have hfield : fourDrawn.field id = [1, 2, 3, 4] := hsorted
  simp only [Tournament.perform_eq, Tournament.pair_eq, Tournament.drawTables, search_eq, hfield]
  rfl

theorem newRound_seats_active_fourDrawn :
    Reachable fourDrawn ∧
      Draw.Fair id ∧
      (Verb.pair false).drawsTables = true ∧
      fourDrawn.perform id (.pair false) =
        .ok (.silent { fourDrawn with tables := [.fresh 1 3, .fresh 2 4] }) ∧
      (occupied [.fresh 1 3, .fresh 2 4]).count 3 = 1 ∧
      NoRematch fourDrawn.history [.fresh 1 3, .fresh 2 4] := by
  obtain ⟨_, hone, _, _, hnew⟩ :=
    newRound_seats_active fourDrawn_reachable Draw.fair_id rfl fourDrawn_pair
  refine ⟨fourDrawn_reachable, Draw.fair_id, rfl, fourDrawn_pair, ?_, ?_⟩
  · exact hone ⟨3, "Cid", false⟩ (by simp [fourDrawn]) rfl
  · exact hnew (by decide)

end Swiss
end TournamentDesk
