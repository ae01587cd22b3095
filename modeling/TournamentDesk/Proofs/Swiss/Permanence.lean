import Mathlib.Data.List.Induction
import TournamentDesk.Proofs.Swiss.Refusals
import TournamentDesk.Proofs.Swiss.Roster

/-!
# No recorded fact is lost

Two verbs give a tournament new tables in place of its old ones. Pairing a round anew is refused once a
match of it has a result, and closing a round hands its tables over to the history as they are. So a result,
once it is recorded, can be corrected while its round lasts and stays on record from then on. Finished
rounds, numbers, names and the marks of those who have left are never taken back.

* `nothing_recorded_is_lost`: what one verb, refused or not, may do to what is recorded.
* `afterAll_keeps`, `match_stays_on_record`: what is left of it after any number of verbs.
-/

namespace TournamentDesk
namespace Swiss

/-- A tournament after verbs, each with the draw at its time. -/
def Tournament.afterAll (t : Tournament) (asked : List (Draw × Verb)) : Tournament :=
  asked.foldl (fun t a => t.after a.1 a.2) t

/-- What a later tournament keeps of an earlier one. -/
structure Keeps (t t' : Tournament) : Prop where
  /-- The tables of finished rounds stay as they are, and new ones come behind them. -/
  history : t.history <+: t'.history
  /-- So do numbers and names. -/
  roster : t.roster <+: t'.roster
  /-- Whoever has left does not come back. -/
  left : ∀ i : Nat,
    t.players[i]?.map Player.removed = some true → t'.players[i]?.map Player.removed = some true

/-- What becomes of the table in the `i`-th place, at which a match has a result. -/
inductive Fate (t : Tournament) (draw : Draw) (i : Nat) (table : Table) (t' : Tournament) :
    Verb → Prop
  | stays
      {verb : Verb}
      (round : t'.round = t.round)
      (history : t'.history = t.history)
      (seated : t'.tables[i]? = some table) :
      Fate t draw i table t' verb
  | corrected
      {id : PlayerId}
      {score : Score}
      (accepted : (t.perform draw (.record id score)).isOk = true)
      (player : id = table.first ∨ id = table.second)
      (round : t'.round = t.round)
      (history : t'.history = t.history)
      (seated : t'.tables[i]? =
        some { table with score := some (if table.first = id then score else score.reversed) }) :
      Fate t draw i table t' (.record id score)
  | closed
      (accepted : (t.perform draw .nextRound).isOk = true)
      (round : t'.round = t.round + 1)
      (history : t'.history = t.history ++ t.tables.map (Played.mk t.round)) :
      Fate t draw i table t' .nextRound

/-! ## Replacing one element -/

theorem getElem?_replaced
    {α : Type}
    (before after : List α)
    (x y : α)
    (i : Nat) :
    (before ++ y :: after)[i]? =
      if i = before.length then some y else (before ++ x :: after)[i]? := by
  split
  · next hi => simp [hi]
  · next hi =>
    rcases Nat.lt_or_gt_of_ne hi with hlow | hhigh
    · rw [List.getElem?_append_left hlow, List.getElem?_append_left hlow]
    · obtain ⟨k, rfl⟩ := Nat.exists_eq_add_of_lt hhigh
      rw [List.getElem?_append_right (by omega), List.getElem?_append_right (by omega)]
      have hk : before.length + k + 1 - before.length = k + 1 := by omega
      rw [hk, List.getElem?_cons_succ, List.getElem?_cons_succ]

/-! ## One verb -/

/-- A verb is refused and changes nothing, or it has an effect. -/
theorem after_cases
    (t : Tournament)
    (draw : Draw)
    (verb : Verb) :
    t.after draw verb = t ∨
      ∃ s, t.perform draw verb = .ok s ∧ Effect t draw verb s ∧ t.after draw verb = s.tournament := by
  cases hperform : t.perform draw verb with
  | error refusal => exact .inl (after_of_error hperform)
  | ok s => exact .inr ⟨s, rfl, perform_effect hperform, after_of_ok hperform⟩

theorem Keeps.refl (t : Tournament) : Keeps t t :=
  ⟨List.prefix_refl _, List.prefix_refl _, fun _ hleft => hleft⟩

theorem Keeps.trans
    {t t' t'' : Tournament}
    (h : Keeps t t')
    (h' : Keeps t' t'') :
    Keeps t t'' :=
  ⟨h.history.trans h'.history, h.roster.trans h'.roster, fun i hleft => h'.left i (h.left i hleft)⟩

theorem Effect.keeps
    {t : Tournament}
    {draw : Draw}
    {verb : Verb}
    {s : Step}
    (h : Effect t draw verb s) :
    Keeps t s.tournament := by
  refine ⟨?_, h.roster_prefix, ?_⟩
  · cases h with
    | closed phase seated decided => exact List.prefix_append _ _
    | _ => exact List.prefix_refl _
  · intro i hleft
    cases h with
    | added visible unfinished new =>
        obtain ⟨p, hp, hremoved⟩ := Option.map_eq_some_iff.1 hleft
        have hi : i < t.players.length := (List.getElem?_eq_some_iff.1 hp).1
        simpa [List.getElem?_append_left hi] using hleft
    | @removed id before after p found number active =>
        simp only [Step.silent]
        rw [getElem?_replaced before after p]
        split
        · rfl
        · rw [← found]
          exact hleft
    | _ => exact hleft

/-- A match that has a result keeps it while its round lasts, unless the result is corrected. -/
theorem Effect.fate
    {t : Tournament}
    (hc : Coherent t)
    {draw : Draw}
    {verb : Verb}
    {s : Step}
    (h : Effect t draw verb s)
    (hperform : t.perform draw verb = .ok s)
    {i : Nat}
    {table : Table}
    (hseated : t.tables[i]? = some table)
    (hbye : table.isBye = false)
    (hscore : table.score.isSome = true) :
    Fate t draw i table s.tournament verb := by
  have hmem : table ∈ t.tables := List.mem_of_getElem? hseated
  have haccepted : (t.perform draw verb).isOk = true := by
    rw [hperform]
    rfl
  cases h with
  | started phase drawn =>
      -- before the start there are no tables
      rw [(hc.untouched (hc.unstarted.1 phase)).1] at hmem
      cases hmem
  | paired phase undecided drawn =>
      -- the table itself is why the round is not paired anew
      rw [Tournament.hasResults, List.any_eq_false] at undecided
      exact absurd (by simp [hbye, hscore]) (undecided table hmem)
  | closed phase seated decided => exact .closed haccepted rfl rfl
  | @recorded id score before after found_table phase some_game few_games known found first_table
      involved no_bye =>
      rw [found] at hseated
      by_cases hi : i = before.length
      · obtain rfl : found_table = table := by simpa [hi] using hseated
        simp only [Table.involves, Bool.or_eq_true, decide_eq_true_eq] at involved
        refine .corrected haccepted (involved.imp Eq.symm Eq.symm) rfl rfl ?_
        simp [Step.silent, hi]
      · refine .stays rfl rfl ?_
        simp only [Step.silent]
        rw [getElem?_replaced before after found_table, if_neg hi]
        exact hseated
  | added => exact .stays rfl rfl hseated
  | removed => exact .stays rfl rfl hseated
  | ranked => exact .stays rfl rfl hseated
  | finished => exact .stays rfl rfl hseated

/-- Once a tournament is completed, only marks of those who have left and the standings change. -/
theorem Effect.completed
    {t : Tournament}
    {draw : Draw}
    {verb : Verb}
    {s : Step}
    (h : Effect t draw verb s)
    (hphase : t.phase = .completed) :
    s.tournament.roster = t.roster ∧
      s.tournament =
        { t with players := s.tournament.players, standings := s.tournament.standings } := by
  cases h with
  | added visible unfinished new => exact absurd hphase unfinished
  | removed found number active => exact ⟨by simp [Step.silent, Tournament.roster, found], rfl⟩
  | started phase drawn => simp [phase] at hphase
  | paired phase undecided drawn => simp [phase] at hphase
  | closed phase seated decided => simp [phase] at hphase
  | recorded phase => simp [phase] at hphase
  | ranked => exact ⟨rfl, rfl⟩
  | finished phase => simp [phase] at hphase

theorem after_keeps
    (t : Tournament)
    (draw : Draw)
    (verb : Verb) :
    Keeps t (t.after draw verb) := by
  rcases after_cases t draw verb with heq | ⟨s, -, heffect, heq⟩
  · rw [heq]
    exact .refl t
  · rw [heq]
    exact heffect.keeps

theorem after_fate
    {t : Tournament}
    (hc : Coherent t)
    (draw : Draw)
    (verb : Verb)
    {i : Nat}
    {table : Table}
    (hseated : t.tables[i]? = some table)
    (hbye : table.isBye = false)
    (hscore : table.score.isSome = true) :
    Fate t draw i table (t.after draw verb) verb := by
  rcases after_cases t draw verb with heq | ⟨s, hperform, heffect, heq⟩
  · rw [heq]
    exact .stays rfl rfl hseated
  · rw [heq]
    exact heffect.fate hc hperform hseated hbye hscore

theorem after_completed
    {t : Tournament}
    (hphase : t.phase = .completed)
    (draw : Draw)
    (verb : Verb) :
    (t.after draw verb).roster = t.roster ∧
      t.after draw verb =
        { t with
          players := (t.after draw verb).players
          standings := (t.after draw verb).standings } := by
  rcases after_cases t draw verb with heq | ⟨s, -, heffect, heq⟩
  · rw [heq]
    exact ⟨rfl, rfl⟩
  · rw [heq]
    exact heffect.completed hphase

/-- Whatever is asked of a tournament, finished rounds, numbers, names and the marks of those who have left
stay. A match with a result stays at its table with that result, unless one of its players records another
one. Only closing the round takes it away, and that puts all tables of the round, in their order, behind
those of the finished rounds. Once a tournament is completed, only marks of those who have left and the
standings change. -/
theorem nothing_recorded_is_lost
    {t : Tournament}
    (h : Reachable t)
    (draw : Draw)
    (verb : Verb) :
    Keeps t (t.after draw verb) ∧
      (∀ (i : Nat) (table : Table),
        t.tables[i]? = some table → table.isBye = false → table.score.isSome = true →
          Fate t draw i table (t.after draw verb) verb) ∧
      (t.phase = .completed →
        (t.after draw verb).roster = t.roster ∧
          t.after draw verb =
            { t with
              players := (t.after draw verb).players
              standings := (t.after draw verb).standings }) :=
  ⟨after_keeps t draw verb, fun _ _ => after_fate h.coherent draw verb,
    fun hphase => after_completed hphase draw verb⟩

/-- The three players after a match in their first round. -/
def firstMatchPlayed : Tournament :=
  { threeStarted with tables := [⟨1, 2, some ⟨2, 1, 0⟩⟩, .bye 3] }

theorem firstMatchPlayed_reachable : Reachable firstMatchPlayed :=
  threeStarted_reachable.next (.record 1 ⟨2, 1, 0⟩) rfl

/-- The round cannot be paired anew, the loser can correct the result, and the round can be closed. -/
theorem nothing_recorded_is_lost_firstMatchPlayed :
    Reachable firstMatchPlayed ∧
      Fate firstMatchPlayed id 0 ⟨1, 2, some ⟨2, 1, 0⟩⟩ firstMatchPlayed (.pair true) ∧
      Fate firstMatchPlayed id 0 ⟨1, 2, some ⟨2, 1, 0⟩⟩
        { threeStarted with tables := [⟨1, 2, some ⟨0, 2, 0⟩⟩, .bye 3] } (.record 2 ⟨2, 0, 0⟩) ∧
      Fate firstMatchPlayed id 0 ⟨1, 2, some ⟨2, 1, 0⟩⟩
        { threeStarted with
          round := 2
          tables := []
          history := [⟨1, ⟨1, 2, some ⟨2, 1, 0⟩⟩⟩, ⟨1, .bye 3⟩] } .nextRound := by
  have hfate (verb : Verb) :
      Fate firstMatchPlayed id 0 ⟨1, 2, some ⟨2, 1, 0⟩⟩ (firstMatchPlayed.after id verb) verb :=
    (nothing_recorded_is_lost firstMatchPlayed_reachable id verb).2.1 0 _ rfl rfl rfl
  exact ⟨firstMatchPlayed_reachable, hfate (.pair true), hfate (.record 2 ⟨2, 0, 0⟩), hfate .nextRound⟩

/-! ## Any number of verbs -/

theorem afterAll_snoc
    (t : Tournament)
    (asked : List (Draw × Verb))
    (last : Draw × Verb) :
    t.afterAll (asked ++ [last]) = (t.afterAll asked).after last.1 last.2 := by
  simp [Tournament.afterAll]

theorem afterAll_keeps
    (t : Tournament)
    (asked : List (Draw × Verb)) :
    Keeps t (t.afterAll asked) := by
  induction asked using List.reverseRecOn with
  | nil => exact .refl t
  | append_singleton asked last ih =>
      rw [afterAll_snoc]
      exact ih.trans (after_keeps _ _ _)

theorem Reachable.after
    {t : Tournament}
    (h : Reachable t)
    {draw : Draw}
    (hdraw : draw.Fair)
    (verb : Verb) :
    Reachable (t.after draw verb) := by
  rcases after_cases t draw verb with heq | ⟨s, hperform, -, heq⟩
  · rw [heq]
    exact h
  · rw [heq]
    exact h.step hdraw hperform

theorem Reachable.afterAll
    {t : Tournament}
    (h : Reachable t)
    {asked : List (Draw × Verb)}
    (hfair : ∀ a ∈ asked, a.1.Fair) :
    Reachable (t.afterAll asked) := by
  induction asked using List.reverseRecOn with
  | nil => exact h
  | append_singleton asked last ih =>
      rw [afterAll_snoc]
      exact (ih fun a ha => hfair a (List.mem_append_left _ ha)).after (hfair last (by simp)) _

/-- A match with a result is on record ever after, at its table as long as its round lasts and in its
place among the finished rounds from then on. -/
theorem match_stays_on_record
    {t : Tournament}
    (h : Reachable t)
    {asked : List (Draw × Verb)}
    (hfair : ∀ a ∈ asked, a.1.Fair)
    {i : Nat}
    {table : Table}
    (hseated : t.tables[i]? = some table)
    (hbye : table.isBye = false)
    (hscore : table.score.isSome = true) :
    ∃ score : Score,
      ((t.afterAll asked).round = t.round ∧
          (t.afterAll asked).history = t.history ∧
          (t.afterAll asked).tables[i]? = some { table with score := some score }) ∨
        (t.afterAll asked).history[t.history.length + i]? =
          some ⟨t.round, { table with score := some score }⟩ := by
  induction asked using List.reverseRecOn with
  | nil =>
      obtain ⟨score, hsome⟩ := Option.isSome_iff_exists.1 hscore
      refine ⟨score, .inl ⟨rfl, rfl, ?_⟩⟩
      rw [← hsome]
      exact hseated
  | append_singleton asked last ih =>
      have hbefore : ∀ a ∈ asked, a.1.Fair := fun a ha => hfair a (List.mem_append_left _ ha)
      have hreachable := h.afterAll hbefore
      obtain ⟨score, ⟨hround, hhistory, hstill⟩ | hpast⟩ := ih hbefore
      · have hfate := after_fate hreachable.coherent last.1 last.2 hstill hbye rfl
        rw [afterAll_snoc]
        generalize last.2 = verb at hfate ⊢
        cases hfate with
        | stays round history seated =>
            exact ⟨score, .inl ⟨round.trans hround, history.trans hhistory, seated⟩⟩
        | corrected accepted player round history seated =>
            exact ⟨_, .inl ⟨round.trans hround, history.trans hhistory, seated⟩⟩
        | closed accepted round history =>
            refine ⟨score, .inr ?_⟩
            rw [history, hhistory, List.getElem?_append_right (Nat.le_add_right _ _),
              Nat.add_sub_cancel_left, List.getElem?_map, hstill, hround]
            rfl
      · refine ⟨score, .inr ?_⟩
        rw [afterAll_snoc]
        obtain ⟨later, hlater⟩ := (after_keeps (t.afterAll asked) last.1 last.2).history
        have hlow := (List.getElem?_eq_some_iff.1 hpast).1
        rw [← hlater, List.getElem?_append_left hlow]
        exact hpast

end Swiss
end TournamentDesk
