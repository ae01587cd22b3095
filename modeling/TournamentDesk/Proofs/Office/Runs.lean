import TournamentDesk.Proofs.Office.Books
import TournamentDesk.Proofs.Office.Operations

/-!
# Runs of an office

A run opens an office on records that do not exist yet and does one task after the other. Any write may
fail at any time, and the office may be opened again whenever its records can be read. Each task is one
turn of the books.

* `Does.tracked`: every task is a turn, and between its writes the records stand before the turn, after
  it, or with the tournament saved and the queue not yet.
* `Run.invariant`: what turns keep holds in every run.
-/

namespace TournamentDesk

open Registration (Queue)
open Storage (Records Trouble Write)
open Swiss (Answer Draw PlayerId Storable Tournament Verb)
open Time (Instant)

namespace Office

/-- An outcome whose answer is that of a verb. -/
def Outcome.answered
    {α : Type}
    (out : Outcome α)
    (f : α → Answer) :
    Outcome Answer :=
  ⟨out.result.map f, out.office, out.writes⟩

/-- How an office does a task. The clock gives times in the range of years, no verb adds a player, and an
office is opened again only if its records can be read. -/
inductive Does (o : Office) (trouble : Trouble) : Task → Outcome Answer → Prop
  | submit
      {now : Instant}
      {name : String}
      (dated : now.date.inRange = true) :
      Does o trouble (.submit now name) ((o.submit trouble now name).answered fun _ => none)
  | accept
      {name : String} :
      Does o trouble (.accept name) ((o.accept trouble name).answered some)
  | reject
      {name : String} :
      Does o trouble (.reject name) ((o.reject trouble name).answered fun _ => none)
  | play
      {draw : Draw}
      {verb : Verb}
      (fair : draw.Fair)
      (nobody : ∀ name, verb ≠ .add name) :
      Does o trouble (.play draw verb) (o.run trouble draw verb)
  | reopen
      {policy : Policy}
      {o' : Office}
      (opened : open? o.records trouble policy = .ok o') :
      Does o trouble (.reopen policy) ⟨.ok none, o', []⟩

/-- Runs of an office, with what happened in them. -/
inductive Run : List Event → Office → Prop
  | opened
      {trouble : Trouble}
      {policy : Policy}
      {o : Office} :
      open? Records.empty trouble policy = .ok o →
      Run [] o
  | step
      {log : List Event}
      {o : Office}
      {trouble : Trouble}
      {task : Task}
      {out : Outcome Answer} :
      Run log o →
      Does o trouble task out →
      Run (log ++ [⟨task, out.result⟩]) out.office

/-- What tasks make of an office, with what happened in them. -/
inductive Leads (o : Office) : List Event → Office → Prop
  | rest :
      Leads o [] o
  | step
      {log : List Event}
      {o' : Office}
      {trouble : Trouble}
      {task : Task}
      {out : Outcome Answer} :
      Leads o log o' →
      Does o' trouble task out →
      Leads o (log ++ [⟨task, out.result⟩]) out.office

/-- Whenever the office was opened again, it was under one policy. -/
def ReopenedUnder (policy : Policy) (log : List Event) : Prop :=
  ∀ event ∈ log, ∀ other, event.task = .reopen other → other = policy

/-- Runs in which the office is always opened under one policy. -/
def RunUnder (policy : Policy) (log : List Event) (o : Office) : Prop :=
  ∃ trouble first, open? Records.empty trouble policy = .ok first ∧ Leads first log o ∧
    ReopenedUnder policy log

/-! ## Tasks as turns -/

/-- Where the records may stand while a task changes the books. -/
inductive Between (b b' : Books) : Tournament → Queue → Prop
  | before : Between b b' b.storedTournament b.storedQueue
  | half : Between b b' b'.storedTournament b.storedQueue
  | after : Between b b' b'.storedTournament b'.storedQueue

/-- An outcome that is a turn of the books. -/
structure Tracked (o : Office) (t : Tournament) (q : Queue) (task : Task) (out : Outcome Answer)
    (t' : Tournament) (q' : Queue) : Prop where
  turn : Turn (o.books t q) task out.result (out.office.books t' q')
  written : Written out.office.records t' q'
  /-- The writes account for all changes of the records. -/
  records : out.office.records = o.records.afterAll out.writes
  /-- Some of the writes, in their order, lead to a place that the turn may pass. -/
  points : ∀ k, ∃ t'' q'', Between (o.books t q) (out.office.books t' q') t'' q'' ∧
    Written (o.records.afterAll (out.writes.take k)) t'' q''

theorem Between.readsAs
    {b b' : Books}
    (hsound : b.Sound)
    (hsound' : b'.Sound)
    {r : Records}
    {t : Tournament}
    {q : Queue}
    (h : Between b b' t q)
    (hwritten : Written r t q) :
    ReadsAs r t q := by
  cases h with
  | before => exact hwritten.readsAs hsound.storedTournament hsound.storedQueue
  | half => exact hwritten.readsAs hsound'.storedTournament hsound.storedQueue
  | after => exact hwritten.readsAs hsound'.storedTournament hsound'.storedQueue

/-- A task without writes passes no other place. -/
theorem points_of_none
    {r : Records}
    {b b' : Books}
    (h : Written r b.storedTournament b.storedQueue)
    (k : Nat) :
    ∃ t q, Between b b' t q ∧ Written (r.afterAll (([] : List Write).take k)) t q :=
  ⟨_, _, .before, by rw [List.take_nil]; exact h⟩

/-- A task with one write passes no other place. -/
theorem points_of_one
    {r : Records}
    {w : Write}
    {b b' : Books}
    (hbefore : Written r b.storedTournament b.storedQueue)
    (hafter : Written (r.after w) b'.storedTournament b'.storedQueue)
    (k : Nat) :
    ∃ t q, Between b b' t q ∧ Written (r.afterAll ([w].take k)) t q := by
  cases k with
  | zero => exact ⟨_, _, .before, hbefore⟩
  | succ k =>
      refine ⟨_, _, .after, ?_⟩
      rw [List.take_succ_cons, List.take_nil]
      exact hafter

/-- A task with two writes may also stop between them. -/
theorem points_of_two
    {r : Records}
    {w₁ w₂ : Write}
    {b b' : Books}
    (hbefore : Written r b.storedTournament b.storedQueue)
    (hhalf : Written (r.after w₁) b'.storedTournament b.storedQueue)
    (hafter : Written ((r.after w₁).after w₂) b'.storedTournament b'.storedQueue)
    (k : Nat) :
    ∃ t q, Between b b' t q ∧ Written (r.afterAll ([w₁, w₂].take k)) t q := by
  match k with
  | 0 => exact ⟨_, _, .before, hbefore⟩
  | 1 => exact ⟨_, _, .half, hhalf⟩
  | k + 2 =>
      refine ⟨_, _, .after, ?_⟩
      rw [List.take_succ_cons, List.take_succ_cons, List.take_nil]
      exact hafter

theorem tracked_refused
    {α : Type}
    {o : Office}
    {t : Tournament}
    {q : Queue}
    (h : Written o.records t q)
    (task : Task)
    {p : Problem}
    (hp : ∀ name stage cause, p ≠ .partialCommit name stage cause)
    (f : α → Answer) :
    Tracked o t q task ((Outcome.refused o p).answered f) t q :=
  ⟨.refused hp, h, rfl, points_of_none h⟩

theorem settle_tracked
    {o : Office}
    {t : Tournament}
    {q : Queue}
    (h : Written o.records t q)
    {trouble : Trouble}
    {queue : Queue}
    {task : Task}
    (hturn : ∀ result b', Settled (o.books t q) queue result b' → Turn (o.books t q) task result b') :
    ∃ q', Tracked o t q task ((o.settle trouble queue).answered fun _ => none) t q' := by
  obtain ⟨tournament, memory, policy, records⟩ := o
  unfold settle
  cases htrouble : trouble .queue with
  | none =>
      have hwritten := h.afterQueue queue
      simp only [queueWrite, htrouble]
      exact ⟨queue, hturn _ _ .saved, hwritten, rfl, points_of_one h hwritten⟩
  | some fault =>
      simp only [queueWrite, htrouble]
      have hwritten : Written (records.after
          ⟨.queue, Registration.entrantsRecord queue.entries, false⟩) t q := h
      cases policy with
      | uniform => exact ⟨q, hturn _ _ (.undone rfl), hwritten, rfl, points_of_one h hwritten⟩
      | acceptOnly => exact ⟨q, hturn _ _ (.kept rfl), hwritten, rfl, points_of_one h hwritten⟩

theorem commit_tracked
    {o : Office}
    {t : Tournament}
    {q : Queue}
    (h : Written o.records t q)
    {trouble : Trouble}
    {name : String}
    {tournament : Tournament}
    {id : PlayerId}
    {queue : Queue}
    {task : Task}
    (hturn : ∀ result b', Committed (o.books t q) name tournament id queue result b' →
      Turn (o.books t q) task result b') :
    ∃ t' q', Tracked o t q task ((o.commit trouble name tournament id queue).answered some) t' q' := by
  have htournament := h.afterTournament tournament
  have hqueue := htournament.afterQueue queue
  unfold commit
  cases hfirst : trouble .tournament with
  | some fault =>
      simp only [tournamentWrite, hfirst]
      exact ⟨t, q, hturn _ _ .unsaved, h, rfl, points_of_one h h⟩
  | none =>
      simp only [tournamentWrite, hfirst]
      cases hsecond : trouble .queue with
      | some fault =>
          simp only [queueWrite, hsecond]
          exact ⟨tournament, q, hturn _ _ .halfSaved, htournament, rfl,
            points_of_two h htournament htournament⟩
      | none =>
          simp only [queueWrite, hsecond]
          exact ⟨tournament, queue, hturn _ _ .saved, hqueue, rfl,
            points_of_two h htournament hqueue⟩

theorem submit_tracked
    {o : Office}
    {t : Tournament}
    {q : Queue}
    (h : Written o.records t q)
    (trouble : Trouble)
    {now : Instant}
    (hdated : now.date.inRange = true)
    (name : String) :
    ∃ t' q', Tracked o t q (.submit now name)
      ((o.submit trouble now name).answered fun _ => none) t' q' := by
  rcases o.submit_cases trouble now name with ⟨refusal, -, heq⟩ | ⟨hsubmit, heq⟩
  · rw [heq]
    exact ⟨t, q, tracked_refused h _ (fun _ _ _ hp => by cases hp) _⟩
  · obtain ⟨hvisible, hfresh, hfree, -⟩ := Queue.submit_eq_ok hsubmit
    have hfree : ∀ p ∈ o.tournament.players, Text.sameName p.name name = false := by
      simpa [onRoster] using hfree
    rw [heq]
    refine ⟨t, settle_tracked h ?_⟩
    exact fun _ _ => .submitted hdated hvisible (Queue.not_hasPending hfresh) hfree

theorem reject_tracked
    {o : Office}
    {t : Tournament}
    {q : Queue}
    (h : Written o.records t q)
    (trouble : Trouble)
    (name : String) :
    ∃ t' q', Tracked o t q (.reject name)
      ((o.reject trouble name).answered fun _ => none) t' q' := by
  rcases o.reject_cases trouble name with
    ⟨refusal, -, heq⟩ | ⟨found, e, -, hfound, hpending, hnamed, heq⟩
  · rw [heq]
    exact ⟨t, q, tracked_refused h _ (fun _ _ _ hp => by cases hp) _⟩
  · rw [heq]
    refine ⟨t, settle_tracked h ?_⟩
    exact fun _ _ => .rejected hfound hpending hnamed

theorem accept_tracked
    {o : Office}
    {t : Tournament}
    {q : Queue}
    (h : Written o.records t q)
    (trouble : Trouble)
    (name : String) :
    ∃ t' q', Tracked o t q (.accept name) ((o.accept trouble name).answered some) t' q' := by
  rcases o.accept_cases trouble name with
    ⟨refusal, -, heq⟩ | ⟨found, e, -, hfound, hpending, hnamed, hadding⟩
  · rw [heq]
    exact ⟨t, q, tracked_refused h _ (fun _ _ _ hp => by cases hp) _⟩
  · rcases hadding with ⟨refusal, -, heq⟩ | ⟨tournament, id, hadd, heq⟩
    · rw [heq]
      exact ⟨t, q, tracked_refused h _ (fun _ _ _ hp => by cases hp) _⟩
    · rw [heq]
      refine commit_tracked h ?_
      exact fun _ _ => .accepted hfound hpending hnamed hadd

theorem run_tracked
    {o : Office}
    {t : Tournament}
    {q : Queue}
    (h : Written o.records t q)
    (trouble : Trouble)
    {draw : Draw}
    {verb : Verb}
    (hfair : draw.Fair)
    (hnobody : ∀ name, verb ≠ .add name) :
    ∃ t' q', Tracked o t q (.play draw verb) (o.run trouble draw verb) t' q' := by
  rcases o.run_cases trouble draw verb with ⟨refusal, -, heq⟩ | ⟨s, hperform, heq⟩
  · have hp : ∀ name stage cause, Problem.tournament refusal ≠ .partialCommit name stage cause :=
      fun _ _ _ hp => by cases hp
    rw [heq]
    exact ⟨t, q, .refused hp, h, rfl, points_of_none h⟩
  · have heffect := Swiss.perform_effect hperform
    have hwritten := h.afterTournament s.tournament
    rw [heq]
    simp only [saveTournament, tournamentWrite]
    cases htrouble : trouble .tournament with
    | none =>
        exact ⟨s.tournament, q, .played hfair hnobody heffect, hwritten, rfl,
          points_of_one h hwritten⟩
    | some fault =>
        exact ⟨t, q, .playUnsaved hfair hnobody heffect, h, rfl, points_of_one h h⟩

theorem open?_tracked
    {o : Office}
    {t : Tournament}
    {q : Queue}
    (h : Written o.records t q)
    (hsound : (o.books t q).Sound)
    {trouble : Trouble}
    {policy : Policy}
    {o' : Office}
    (hopen : open? o.records trouble policy = .ok o') :
    Tracked o t q (.reopen policy) ⟨.ok none, o', []⟩ t q := by
  obtain ⟨htournament, hqueue, hpolicy, hrecords⟩ := open?_eq_ok hopen
  obtain ⟨tournament, queue, policy', records⟩ := o'
  obtain rfl : policy' = policy := hpolicy
  obtain rfl : records = o.records := hrecords
  obtain ⟨hsame, hstorable⟩ := h.readTournament hsound.storedTournament htournament
  obtain rfl : queue = q := Except.ok.inj (hqueue.symm.trans (h.readQueue hsound.storedQueue))
  exact ⟨.reopened hsame hstorable, h, rfl, points_of_none h⟩

/-- Every task is a turn of the books. -/
theorem Does.tracked
    {o : Office}
    {t : Tournament}
    {q : Queue}
    (h : Written o.records t q)
    (hsound : (o.books t q).Sound)
    {trouble : Trouble}
    {task : Task}
    {out : Outcome Answer}
    (hdoes : Does o trouble task out) :
    ∃ t' q', Tracked o t q task out t' q' := by
  cases hdoes with
  | submit dated => exact submit_tracked h trouble dated _
  | accept => exact accept_tracked h trouble _
  | reject => exact reject_tracked h trouble _
  | play fair nobody => exact run_tracked h trouble fair nobody
  | reopen opened => exact ⟨t, q, open?_tracked h hsound opened⟩

/-! ## Runs -/

/-- The books of an office that has been opened for the first time. -/
def newBooks (policy : Policy) : Books :=
  ⟨policy, Tournament.empty, Queue.empty, Tournament.empty, Queue.empty⟩

theorem sound_newBooks (policy : Policy) : (newBooks policy).Sound :=
  ⟨Storable.empty, by simp [newBooks, Queue.empty], Storable.empty,
    by simp [newBooks, Queue.empty]⟩

theorem books_of_open
    {trouble : Trouble}
    {policy : Policy}
    {o : Office}
    (h : open? Records.empty trouble policy = .ok o) :
    Written o.records Tournament.empty Queue.empty ∧
      o.books Tournament.empty Queue.empty = newBooks policy ∧
      (o.books Tournament.empty Queue.empty).Sound := by
  obtain ⟨htournament, hqueue, rfl, hrecords⟩ := open?_eq_ok h
  obtain ⟨tournament, queue, policy, records⟩ := o
  cases htournament
  cases hqueue
  cases hrecords
  exact ⟨written_empty, rfl, sound_newBooks policy⟩

/-- What turns keep holds from any office on. -/
theorem Leads.invariant
    {P : List Event → Books → Prop}
    (hturn : ∀ log b task result b', P log b → Turn b task result b' →
      P (log ++ [⟨task, result⟩]) b')
    {o o' : Office}
    {t : Tournament}
    {q : Queue}
    (hwritten : Written o.records t q)
    (hsound : (o.books t q).Sound)
    (hstart : P [] (o.books t q))
    {log : List Event}
    (h : Leads o log o') :
    ∃ t' q', Written o'.records t' q' ∧ (o'.books t' q').Sound ∧ P log (o'.books t' q') := by
  induction h with
  | rest => exact ⟨t, q, hwritten, hsound, hstart⟩
  | step hleads hdoes ih =>
      obtain ⟨t, q, hwritten, hsound, hp⟩ := ih
      obtain ⟨t', q', htracked⟩ := hdoes.tracked hwritten hsound
      exact ⟨t', q', htracked.written, hsound.turn htracked.turn, hturn _ _ _ _ _ hp htracked.turn⟩

theorem Run.leads
    {log : List Event}
    {o : Office}
    (h : Run log o) :
    ∃ trouble policy first, open? Records.empty trouble policy = .ok first ∧ Leads first log o := by
  induction h with
  | opened hopen => exact ⟨_, _, _, hopen, .rest⟩
  | step hrun hdoes ih =>
      obtain ⟨trouble, policy, first, hopen, hleads⟩ := ih
      exact ⟨trouble, policy, first, hopen, hleads.step hdoes⟩

/-- What holds of empty books and is kept by turns holds in every run. -/
theorem Run.invariant
    {P : List Event → Books → Prop}
    (hempty : ∀ policy, P [] (newBooks policy))
    (hturn : ∀ log b task result b', P log b → Turn b task result b' →
      P (log ++ [⟨task, result⟩]) b')
    {log : List Event}
    {o : Office}
    (h : Run log o) :
    ∃ t q, Written o.records t q ∧ (o.books t q).Sound ∧ P log (o.books t q) := by
  obtain ⟨trouble, policy, first, hopen, hleads⟩ := h.leads
  obtain ⟨hwritten, hbooks, hsound⟩ := books_of_open hopen
  exact hleads.invariant hturn hwritten hsound (hbooks ▸ hempty policy)

theorem RunUnder.opened
    {trouble : Trouble}
    {policy : Policy}
    {o : Office}
    (h : open? Records.empty trouble policy = .ok o) :
    RunUnder policy [] o :=
  ⟨trouble, o, h, .rest, fun _ hevent => by cases hevent⟩

theorem RunUnder.step
    {policy : Policy}
    {log : List Event}
    {o : Office}
    (h : RunUnder policy log o)
    {trouble : Trouble}
    {task : Task}
    {out : Outcome Answer}
    (hdoes : Does o trouble task out)
    (htask : ∀ other, task = .reopen other → other = policy) :
    RunUnder policy (log ++ [⟨task, out.result⟩]) out.office := by
  obtain ⟨trouble, first, hopen, hleads, hunder⟩ := h
  refine ⟨trouble, first, hopen, hleads.step hdoes, ?_⟩
  intro event hevent other hother
  rcases List.mem_append.1 hevent with hevent | hevent
  · exact hunder event hevent other hother
  · rw [List.mem_singleton.1 hevent] at hother
    exact htask other hother

theorem RunUnder.run
    {policy : Policy}
    {log : List Event}
    {o : Office}
    (h : RunUnder policy log o) :
    Run log o := by
  obtain ⟨trouble, first, hopen, hleads, -⟩ := h
  induction hleads with
  | rest => exact .opened hopen
  | step hleads hdoes ih => exact ih.step hdoes

/-- What turns under one policy keep holds in every run under that policy. -/
theorem RunUnder.invariant
    {policy : Policy}
    {P : Books → Prop}
    (hempty : P (newBooks policy))
    (hturn : ∀ b task result b', b.policy = policy → P b → Turn b task result b' → P b')
    {log : List Event}
    {o : Office}
    (h : RunUnder policy log o) :
    ∃ t q, Written o.records t q ∧ (o.books t q).Sound ∧ P (o.books t q) := by
  obtain ⟨trouble, first, hopen, hleads, hunder⟩ := h
  obtain ⟨hwritten, hbooks, hsound⟩ := books_of_open hopen
  have hkept : ∀ log b task result b',
      (ReopenedUnder policy log → b.policy = policy ∧ P b) → Turn b task result b' →
        ReopenedUnder policy (log ++ [⟨task, result⟩]) → b'.policy = policy ∧ P b' := by
    intro log b task result b' hp hturned hunder
    obtain ⟨hpolicy, hp⟩ := hp fun event hevent => hunder event (List.mem_append_left _ hevent)
    have htask := hunder _ (List.mem_append_right _ (List.mem_singleton_self _))
    rw [← hpolicy] at htask
    exact ⟨(hturned.policy_eq htask).trans hpolicy, hturn b task result b' hpolicy hp hturned⟩
  have hstart : ReopenedUnder policy [] →
      (first.books Tournament.empty Queue.empty).policy = policy ∧
        P (first.books Tournament.empty Queue.empty) := by
    intro _
    rw [hbooks]
    exact ⟨rfl, hempty⟩
  obtain ⟨t, q, hwritten, hsound, hp⟩ := hleads.invariant hkept hwritten hsound hstart
  exact ⟨t, q, hwritten, hsound, (hp hunder).2⟩

/-! ## An office with a request -/

/-- The start of a day in spring. -/
def springDay : Instant :=
  ⟨⟨2024, 3, 1, by decide, by decide⟩, 0, 0, by decide, by decide, by decide⟩

/-- An office that has just been opened for the first time. -/
def newOffice : Office :=
  ⟨Tournament.empty, Queue.empty, .uniform, Records.empty⟩

/-- The office after Ann has asked to play. -/
def annAsked : Office :=
  (newOffice.submit Storage.noTrouble springDay "Ann").office

theorem annAsked_runUnder : ∃ log, RunUnder .uniform log annAsked := by
  have hopen : open? Records.empty Storage.noTrouble .uniform = .ok newOffice := rfl
  have hasked : Does newOffice Storage.noTrouble (.submit springDay "Ann") _ := .submit (by decide)
  exact ⟨_, (RunUnder.opened hopen).step hasked fun _ hother => by cases hother⟩

theorem annAsked_run : ∃ log, Run log annAsked := by
  obtain ⟨log, hasked⟩ := annAsked_runUnder
  exact ⟨log, hasked.run⟩

end Office
end TournamentDesk
