import TournamentDesk.Proofs.Swiss.Seating
import TournamentDesk.Swiss.Verb

/-!
# What verbs do

Each verb that is not refused changes a tournament in one way, under conditions that it has checked.
`Effect` lists these ways, and everything about runs of a tournament is read off from it.

* `perform_effect`: a verb that is not refused has one of the listed effects.
* `Reachable`: the tournaments that verbs make out of the empty one.
-/

namespace TournamentDesk
namespace Swiss

/-- What a verb does to a tournament, with the conditions under which it is not refused. -/
inductive Effect (t : Tournament) (draw : Draw) : Verb → Step → Prop
  | added
      {name : String}
      (visible : Text.isBlank name = false)
      (unfinished : t.phase ≠ .completed)
      (new : ∀ p ∈ t.players, p.name ≠ name) :
      Effect t draw (.add name)
        ⟨{ t with lastId := t.lastId + 1, players := t.players ++ [⟨t.lastId + 1, name, false⟩] },
          some (t.lastId + 1)⟩
  | removed
      {id : PlayerId}
      {before after : List Player}
      {p : Player}
      (found : t.players = before ++ p :: after)
      (number : p.id = id)
      (active : p.removed = false) :
      Effect t draw (.remove id)
        (.silent { t with players := before ++ { p with removed := true } :: after })
  | started
      {tables : List Table}
      (phase : t.phase = .notStarted)
      (drawn : t.drawTables draw false = .ok tables) :
      Effect t draw .start (.silent { t with phase := .inProgress, round := 1, tables })
  | paired
      {allowRepair : Bool}
      {tables : List Table}
      (phase : t.phase = .inProgress)
      (undecided : t.hasResults = false)
      (drawn : t.drawTables draw allowRepair = .ok tables) :
      Effect t draw (.pair allowRepair) (.silent { t with tables })
  | closed
      (phase : t.phase = .inProgress)
      (seated : t.tables ≠ [])
      (decided : ∀ table ∈ t.tables, table.score.isSome = true) :
      Effect t draw .nextRound
        (.silent { t with
          history := t.history ++ t.tables.map (Played.mk t.round)
          tables := []
          round := t.round + 1 })
  | recorded
      {id : PlayerId}
      {score : Score}
      {before after : List Table}
      {table : Table}
      (phase : t.phase = .inProgress)
      (some_game : 0 < score.games)
      (few_games : score.games ≤ maxGames)
      (known : (t.findPlayer id).isSome = true)
      (found : t.tables = before ++ table :: after)
      (first_table : ∀ other ∈ before, other.involves id = false)
      (involved : table.involves id = true)
      (no_bye : table.isBye = false) :
      Effect t draw (.record id score)
        (.silent { t with
          tables := before ++
            { table with score := some (if table.first = id then score else score.reversed) } ::
            after })
  | ranked :
      Effect t draw .standings (.silent t.updateStandings)
  | finished
      (phase : t.phase = .inProgress) :
      Effect t draw .finish (.silent { t with phase := .completed })

/-! ## The parts of a verb -/

theorem require_eq_ok
    {t : Tournament}
    {phase : Phase}
    {u : Unit}
    (h : t.require phase = .ok u) :
    t.phase = phase := by
  unfold Tournament.require at h
  split at h
  · next hphase => exact hphase
  · simp at h

theorem require_of_phase
    {t : Tournament}
    {phase : Phase}
    (h : t.phase = phase) :
    t.require phase = .ok () :=
  if_pos h

theorem markRemoved_eq_some
    {id : PlayerId}
    {ps qs : List Player}
    (h : Tournament.markRemoved id ps = some qs) :
    ∃ before p after,
      ps = before ++ p :: after ∧ p.id = id ∧ p.removed = false ∧
        qs = before ++ { p with removed := true } :: after := by
  induction ps generalizing qs with
  | nil =>
      simp [Tournament.markRemoved] at h
  | cons p rest ih =>
      unfold Tournament.markRemoved at h
      split at h
      · next hp =>
        simp only [Bool.and_eq_true, decide_eq_true_eq, Bool.not_eq_true'] at hp
        simp only [Option.some.injEq] at h
        exact ⟨[], p, rest, rfl, hp.1, hp.2, h.symm⟩
      · obtain ⟨qs', hqs', rfl⟩ := Option.map_eq_some_iff.1 h
        obtain ⟨before, q, after, hrest, hid, hactive, hafter⟩ := ih hqs'
        exact ⟨p :: before, q, after, by rw [hrest]; rfl, hid, hactive, by rw [hafter]; rfl⟩

theorem checkScore_eq_ok
    {score : Score}
    {u : Unit}
    (h : Tournament.checkScore score = .ok u) :
    0 < score.games ∧ score.games ≤ maxGames := by
  unfold Tournament.checkScore at h
  split at h
  · simp at h
  · next hsome =>
    split at h
    · next hfew => exact ⟨Nat.pos_of_ne_zero hsome, hfew⟩
    · simp at h

theorem enterScore_eq_ok
    {id : PlayerId}
    {score : Score}
    {ts us : List Table}
    (h : Tournament.enterScore id score ts = .ok us) :
    ∃ before table after,
      ts = before ++ table :: after ∧
        (∀ other ∈ before, other.involves id = false) ∧
        table.involves id = true ∧ table.isBye = false ∧
        us = before ++
          { table with score := some (if table.first = id then score else score.reversed) } ::
            after := by
  induction ts generalizing us with
  | nil =>
      simp [Tournament.enterScore] at h
  | cons table rest ih =>
      unfold Tournament.enterScore at h
      split at h
      · next hid =>
        split at h
        · simp at h
        · next hbye =>
          cases h
          exact ⟨[], table, rest, rfl, by simp, hid, by simpa using hbye, rfl⟩
      · next hid =>
        cases hrest : Tournament.enterScore id score rest with
        | error refusal =>
            rw [hrest] at h
            simp [Except.map] at h
        | ok us' =>
            rw [hrest] at h
            cases h
            obtain ⟨before, found, after, rfl, hbefore, hfound, hbye, rfl⟩ := ih hrest
            refine ⟨table :: before, found, after, rfl, ?_, hfound, hbye, rfl⟩
            intro other hother
            rcases List.mem_cons.1 hother with rfl | hother
            · simpa using hid
            · exact hbefore other hother

/-! ## All verbs -/

theorem except_bind_eq_ok
    {ε α β : Type}
    {x : Except ε α}
    {f : α → Except ε β}
    {b : β}
    (h : (x >>= f) = .ok b) :
    ∃ a, x = .ok a ∧ f a = .ok b := by
  cases x with
  | error e => cases h
  | ok a => exact ⟨a, rfl, h⟩

theorem except_map_eq_ok
    {ε α β : Type}
    {x : Except ε α}
    {f : α → β}
    {b : β}
    (h : x.map f = .ok b) :
    ∃ a, x = .ok a ∧ f a = b := by
  cases x with
  | error e => cases h
  | ok a => exact ⟨a, rfl, Except.ok.inj h⟩

theorem addPlayer_eq_ok
    {t : Tournament}
    {name : String}
    {r : Tournament × PlayerId}
    (h : t.addPlayer name = .ok r) :
    Text.isBlank name = false ∧ t.phase ≠ .completed ∧ (∀ p ∈ t.players, p.name ≠ name) ∧
      r = ({ t with lastId := t.lastId + 1, players := t.players ++ [⟨t.lastId + 1, name, false⟩] },
        t.lastId + 1) := by
  rw [Tournament.addPlayer_eq] at h
  split at h
  · simp at h
  · next hblank =>
    split at h
    · simp at h
    · next hphase =>
      split at h
      · simp at h
      · next hnew =>
        cases h
        refine ⟨by simpa using hblank, hphase, ?_, rfl⟩
        simpa using hnew

theorem pair_eq_ok
    {t t' : Tournament}
    {draw : Draw}
    {allowRepair : Bool}
    (h : t.pair draw allowRepair = .ok t') :
    t.phase = .inProgress ∧ t.hasResults = false ∧
      ∃ tables, t.drawTables draw allowRepair = .ok tables ∧ t' = { t with tables } := by
  rw [Tournament.pair_eq] at h
  obtain ⟨_, hphase, h⟩ := except_bind_eq_ok h
  split at h
  · cases h
  · next hresults =>
    obtain ⟨tables, hdrawn, h⟩ := except_bind_eq_ok h
    cases h
    exact ⟨require_eq_ok hphase, by simpa using hresults, tables, hdrawn, rfl⟩

/-- A verb that is not refused has one of the listed effects. -/
theorem perform_effect
    {t : Tournament}
    {draw : Draw}
    {verb : Verb}
    {s : Step}
    (h : t.perform draw verb = .ok s) :
    Effect t draw verb s := by
  rw [Tournament.perform_eq] at h
  cases verb with
  | add name =>
      obtain ⟨r, hr, rfl⟩ := except_map_eq_ok h
      obtain ⟨hvisible, hphase, hnew, rfl⟩ := addPlayer_eq_ok hr
      exact .added hvisible hphase hnew
  | remove id =>
      obtain ⟨t', ht', rfl⟩ := except_map_eq_ok h
      rw [Tournament.removePlayer_eq] at ht'
      split at ht'
      · next hmark =>
        obtain ⟨before, p, after, hfound, hid, hactive, rfl⟩ := markRemoved_eq_some hmark
        cases ht'
        exact .removed hfound hid hactive
      · simp at ht'
  | start =>
      obtain ⟨t', ht', rfl⟩ := except_map_eq_ok h
      rw [Tournament.start_eq] at ht'
      obtain ⟨_, hphase, ht'⟩ := except_bind_eq_ok ht'
      obtain ⟨tables, hdrawn, ht'⟩ := except_bind_eq_ok ht'
      cases ht'
      exact .started (require_eq_ok hphase) hdrawn
  | pair allowRepair =>
      obtain ⟨t', ht', rfl⟩ := except_map_eq_ok h
      obtain ⟨hphase, hresults, tables, hdrawn, rfl⟩ := pair_eq_ok ht'
      exact .paired hphase hresults hdrawn
  | nextRound =>
      obtain ⟨t', ht', rfl⟩ := except_map_eq_ok h
      rw [Tournament.nextRound_eq] at ht'
      obtain ⟨_, hphase, ht'⟩ := except_bind_eq_ok ht'
      split at ht'
      · simp at ht'
      · next hseated =>
        split at ht'
        · simp at ht'
        · next hmissing =>
          cases ht'
          refine .closed (require_eq_ok hphase) (by simpa using hseated) ?_
          have hnone : t.missing = 0 := by omega
          unfold Tournament.missing at hnone
          rw [List.countP_eq_zero] at hnone
          intro table htable
          have := hnone table htable
          cases hscore : table.score <;> simp_all
  | record id score =>
      obtain ⟨t', ht', rfl⟩ := except_map_eq_ok h
      rw [Tournament.recordResult_eq] at ht'
      obtain ⟨_, hphase, ht'⟩ := except_bind_eq_ok ht'
      obtain ⟨_, hscore, ht'⟩ := except_bind_eq_ok ht'
      split at ht'
      · simp at ht'
      · next hknown =>
        obtain ⟨tables, htables, ht'⟩ := except_bind_eq_ok ht'
        cases ht'
        obtain ⟨hsome, hfew⟩ := checkScore_eq_ok hscore
        obtain ⟨before, table, after, hfound, hbefore, hin, hbye, rfl⟩ := enterScore_eq_ok htables
        have hknown' : (t.findPlayer id).isSome = true := by
          rw [Option.isSome_iff_ne_none]
          intro hnone
          exact hknown (by rw [hnone]; rfl)
        exact .recorded (require_eq_ok hphase) hsome hfew hknown' hfound hbefore hin hbye
  | standings =>
      cases h
      exact .ranked
  | finish =>
      obtain ⟨t', ht', rfl⟩ := except_map_eq_ok h
      rw [Tournament.finish_eq] at ht'
      obtain ⟨_, hphase, ht'⟩ := except_bind_eq_ok ht'
      cases ht'
      exact .finished (require_eq_ok hphase)

/-! ## Runs -/

/-- The tournaments that verbs make out of the empty one, with fair draws. A refused verb changes
nothing and so adds no tournament. -/
inductive Reachable : Tournament → Prop
  | empty :
      Reachable Tournament.empty
  | step
      {t : Tournament}
      {draw : Draw}
      {verb : Verb}
      {s : Step} :
      Reachable t →
      draw.Fair →
      t.perform draw verb = .ok s →
      Reachable s.tournament

end Swiss
end TournamentDesk
