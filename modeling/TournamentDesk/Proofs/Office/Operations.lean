import TournamentDesk.Office.Decisions
import TournamentDesk.Office.Rounds
import TournamentDesk.Proofs.Registration.Queue
import TournamentDesk.Proofs.Swiss.Refusals

/-!
# What an operation comes to

Each operation is refused before anything has happened, or it changes something in memory and saves it.
There are three ways to save: a change of the queue, an acceptance, and a change of the tournament.
Everything about single operations is read off from these cases, so that the operations need not be taken
apart again.

* `submit_decided`, `accept_decided`, `reject_decided`, `run_decided`: refused, or saved in one of the three
  ways, whatever trouble the storage gives. `submit_cases` and the like say so for a given trouble.
* `accept_halfSaved`: what an acceptance leaves when only the tournament could be saved.
* `open?_eq_ok`: what an office is opened with.
-/

namespace TournamentDesk

open Registration (Queue)
open Storage (RecordName Records Trouble Write)
open Swiss (Draw PlayerId Tournament Verb)
open Time (Instant)

namespace Office

/-- Whether some of the writes saved a record. -/
def saves (ws : List Write) (name : RecordName) : Bool :=
  ws.any fun w => w.record = name && w.succeeded

/-! ## Three ways to save -/

/-- Saves a change of the queue, or leaves what the policy says. -/
def settle (o : Office) (trouble : Trouble) (queue : Queue) : Outcome Unit :=
  let changed := { o with queue }
  let w := changed.queueWrite trouble
  match trouble .queue with
  | none => ⟨.ok (), changed.wrote w, [w]⟩
  | some fault =>
    let left :=
      match o.policy with
      | .uniform => o
      | .acceptOnly => changed
    ⟨.error (.storage fault), left.wrote w, [w]⟩

/-- A change of the queue that is saved. -/
theorem settle_saved
    (o : Office)
    {trouble : Trouble}
    (h : trouble .queue = none)
    (queue : Queue) :
    (o.settle trouble queue).result = .ok () ∧
      (o.settle trouble queue).office =
        { o with
          queue
          records := { o.records with queue := some (Registration.entrantsRecord queue.entries) } } := by
  constructor
  · simp only [settle, h]
  · simp only [settle, h, queueWrite]
    rfl

/-- A change of the queue that cannot be saved is undone or kept in memory. -/
theorem settle_unsaved
    (o : Office)
    {trouble : Trouble}
    {fault : Storage.Fault}
    (h : trouble .queue = some fault)
    (queue : Queue) :
    (o.settle trouble queue).office = o ∨ (o.settle trouble queue).office = { o with queue } := by
  simp only [settle, h, queueWrite]
  split
  · exact .inl rfl
  · exact .inr rfl

/-- Saves an acceptance, the tournament first. When either fails, the player stays in memory and the queue
is left as it was. -/
def commit (o : Office) (trouble : Trouble) (name : String) (tournament : Tournament) (id : PlayerId)
    (queue : Queue) : Outcome PlayerId :=
  let accepted := { o with tournament, queue }
  let restored := { o with tournament }
  let w₁ := accepted.tournamentWrite trouble
  match trouble .tournament with
  | some fault =>
    ⟨.error (.partialCommit name .tournament (.storage fault)), restored.wrote w₁, [w₁]⟩
  | none =>
    let w₂ := accepted.queueWrite trouble
    match trouble .queue with
    | some fault =>
      ⟨.error (.partialCommit name .queue (.storage fault)), (restored.wrote w₁).wrote w₂, [w₁, w₂]⟩
    | none => ⟨.ok id, (accepted.wrote w₁).wrote w₂, [w₁, w₂]⟩

/-- An acceptance that is saved. -/
theorem commit_saved
    (o : Office)
    {trouble : Trouble}
    (htournament : trouble .tournament = none)
    (hqueue : trouble .queue = none)
    (name : String)
    (tournament : Tournament)
    (id : PlayerId)
    (queue : Queue) :
    (o.commit trouble name tournament id queue).result = .ok id ∧
      (o.commit trouble name tournament id queue).office =
        { o with
          tournament
          queue
          records :=
            ⟨some tournament.toRecord, some (Registration.entrantsRecord queue.entries)⟩ } := by
  constructor
  · simp only [commit, htournament, hqueue]
  · simp only [commit, htournament, hqueue, wrote, tournamentWrite, queueWrite, Records.after,
      Records.put, Option.isNone_none, if_true]

/-- A change of the tournament that is saved. -/
theorem saveTournament_saved
    {α : Type}
    (o : Office)
    {trouble : Trouble}
    (h : trouble .tournament = none)
    (answer : α) :
    (o.saveTournament trouble answer).result = .ok answer ∧
      (o.saveTournament trouble answer).office =
        { o with records := { o.records with tournament := some o.tournament.toRecord } } := by
  constructor
  · simp only [saveTournament, h]
  · simp only [saveTournament, h, wrote, tournamentWrite, Records.after, Records.put,
      Option.isNone_none, if_true]

/-! ## Single operations -/

/-- Whether a request is refused, and else what is saved, is decided before anything is written. -/
theorem submit_decided
    (o : Office)
    (now : Instant)
    (name : String) :
    (∃ refusal, o.queue.submit name o.onRoster now = .error refusal ∧
      ∀ trouble, o.submit trouble now name = .refused o (.registration refusal)) ∨
      o.queue.submit name o.onRoster now = .ok (o.queue.push name now, o.queue.entries.length) ∧
        ∀ trouble, o.submit trouble now name = o.settle trouble (o.queue.push name now) := by
  cases hsubmit : o.queue.submit name o.onRoster now with
  | error refusal =>
      have hrun := (Queue.submitting_careful name o.onRoster now).run_of_done hsubmit
      exact .inl ⟨refusal, rfl, fun _ => by rw [submit, hrun]⟩
  | ok r =>
      obtain ⟨-, -, -, rfl⟩ := Queue.submit_eq_ok hsubmit
      refine .inr ⟨rfl, fun _ => ?_⟩
      simp only [submit, Deed.run_of_done hsubmit, Queue.discard_push]
      rfl

theorem submit_cases
    (o : Office)
    (trouble : Trouble)
    (now : Instant)
    (name : String) :
    (∃ refusal, o.queue.submit name o.onRoster now = .error refusal ∧
      o.submit trouble now name = .refused o (.registration refusal)) ∨
      o.queue.submit name o.onRoster now = .ok (o.queue.push name now, o.queue.entries.length) ∧
        o.submit trouble now name = o.settle trouble (o.queue.push name now) := by
  rcases o.submit_decided now name with ⟨refusal, hrefused, heq⟩ | ⟨htaken, heq⟩
  · exact .inl ⟨refusal, hrefused, heq trouble⟩
  · exact .inr ⟨htaken, heq trouble⟩

theorem reject_decided
    (o : Office)
    (name : String) :
    (∃ refusal, o.queue.findPendingExact name = .error refusal ∧
      ∀ trouble, o.reject trouble name = .refused o (.registration refusal)) ∨
      ∃ found e, o.queue.findPendingExact name = .ok found ∧
        o.queue.entries[found.position]? = some e ∧ e.status = .pending ∧ e.name = name ∧
          ∀ trouble, o.reject trouble name =
            o.settle trouble (o.queue.setStatus found.position .rejected) := by
  cases hfind : o.queue.findPendingExact name with
  | error refusal => exact .inl ⟨refusal, rfl, fun _ => by rw [reject, hfind]⟩
  | ok found =>
      obtain ⟨e, hfound, hpending, hnamed⟩ := Queue.findPendingExact_eq_ok hfind
      have hmarked := Queue.run_marking hfound .rejected
      have hrestored := Queue.run_marking_setStatus hfound .rejected
      rw [hpending] at hrestored
      refine .inr ⟨found, e, rfl, hfound, hpending, hnamed, fun trouble => ?_⟩
      simp only [reject, hfind, hmarked, hrestored, settle]
      cases trouble .queue with
      | none => rfl
      | some fault =>
          cases o with
          | mk _ _ policy _ => cases policy <;> rfl

theorem reject_cases
    (o : Office)
    (trouble : Trouble)
    (name : String) :
    (∃ refusal, o.queue.findPendingExact name = .error refusal ∧
      o.reject trouble name = .refused o (.registration refusal)) ∨
      ∃ found e, o.queue.findPendingExact name = .ok found ∧
        o.queue.entries[found.position]? = some e ∧ e.status = .pending ∧ e.name = name ∧
          o.reject trouble name =
            o.settle trouble (o.queue.setStatus found.position .rejected) := by
  rcases o.reject_decided name with
    ⟨refusal, hrefused, heq⟩ | ⟨found, e, hfind, hfound, hpending, hnamed, heq⟩
  · exact .inl ⟨refusal, hrefused, heq trouble⟩
  · exact .inr ⟨found, e, hfind, hfound, hpending, hnamed, heq trouble⟩

theorem accept_decided
    (o : Office)
    (name : String) :
    (∃ refusal, o.queue.findPending name = .error refusal ∧
      ∀ trouble, o.accept trouble name = .refused o (.registration refusal)) ∨
      ∃ found e, o.queue.findPending name = .ok found ∧
        o.queue.entries[found.position]? = some e ∧ e.status = .pending ∧
          Text.sameName e.name name = true ∧
            ((∃ refusal, o.tournament.addPlayer e.name = .error refusal ∧
              ∀ trouble, o.accept trouble name = .refused o (.tournament refusal)) ∨
              ∃ tournament id, o.tournament.addPlayer e.name = .ok (tournament, id) ∧
                ∀ trouble, o.accept trouble name = o.commit trouble e.name tournament id
                  (o.queue.setStatus found.position .accepted)) := by
  cases hfind : o.queue.findPending name with
  | error refusal => exact .inl ⟨refusal, rfl, fun _ => by rw [accept, hfind]⟩
  | ok found =>
      obtain ⟨e, hfound, hpending, hnamed, hname⟩ := Queue.findPending_eq_ok hfind
      have hmarked := Queue.run_marking hfound .accepted
      have hrestored := Queue.run_marking_setStatus hfound .accepted
      rw [hpending] at hrestored
      refine .inr ⟨found, e, rfl, hfound, hpending, hnamed, ?_⟩
      cases hadded : o.tournament.addPlayer e.name with
      | error refusal =>
          have hrun := (Tournament.adding_careful e.name).run_of_done hadded
          exact .inl ⟨refusal, rfl, fun _ => by simp only [accept, hfind, ← hname, hrun]⟩
      | ok r =>
          refine .inr ⟨r.1, r.2, rfl, fun _ => ?_⟩
          simp only [accept, hfind, ← hname, Deed.run_of_done hadded, hmarked, Deed.leaves, hrestored]
          rfl

theorem accept_cases
    (o : Office)
    (trouble : Trouble)
    (name : String) :
    (∃ refusal, o.queue.findPending name = .error refusal ∧
      o.accept trouble name = .refused o (.registration refusal)) ∨
      ∃ found e, o.queue.findPending name = .ok found ∧
        o.queue.entries[found.position]? = some e ∧ e.status = .pending ∧
          Text.sameName e.name name = true ∧
            ((∃ refusal, o.tournament.addPlayer e.name = .error refusal ∧
              o.accept trouble name = .refused o (.tournament refusal)) ∨
              ∃ tournament id, o.tournament.addPlayer e.name = .ok (tournament, id) ∧
                o.accept trouble name = o.commit trouble e.name tournament id
                  (o.queue.setStatus found.position .accepted)) := by
  rcases o.accept_decided name with
    ⟨refusal, hrefused, heq⟩ | ⟨found, e, hfind, hfound, hpending, hnamed, hadd⟩
  · exact .inl ⟨refusal, hrefused, heq trouble⟩
  · refine .inr ⟨found, e, hfind, hfound, hpending, hnamed, ?_⟩
    rcases hadd with ⟨refusal, hadd, heq⟩ | ⟨tournament, id, hadd, heq⟩
    · exact .inl ⟨refusal, hadd, heq trouble⟩
    · exact .inr ⟨tournament, id, hadd, heq trouble⟩

theorem accept_halfSaved
    {o : Office}
    {trouble : Trouble}
    {name : String}
    {found : Registration.Found}
    {tournament : Tournament}
    {id : PlayerId}
    {fault : Storage.Fault}
    (hfind : o.queue.findPending name = .ok found)
    (hadded : o.tournament.addPlayer found.name = .ok (tournament, id))
    (htournament : trouble .tournament = none)
    (hqueue : trouble .queue = some fault) :
    (o.accept trouble name).office =
      { o with
        tournament
        queue := o.queue.setStatus found.position .pending
        records := o.records.after ⟨.tournament, tournament.toRecord, true⟩ } := by
  obtain ⟨e, hfound, hpending, -, -⟩ := Queue.findPending_eq_ok hfind
  have hself := Queue.setStatus_self hfound
  have hrestored := Queue.run_marking_setStatus hfound .accepted
  rw [hpending] at hself hrestored
  simp only [accept, hfind, Deed.run_of_done hadded, Queue.run_marking hfound, Deed.leaves, hrestored,
    hself, htournament, hqueue, wrote, tournamentWrite, queueWrite, Option.isNone_none,
    Option.isNone_some]
  rfl

theorem run_decided
    (o : Office)
    (draw : Draw)
    (verb : Verb) :
    (∃ refusal, o.tournament.perform draw verb = .error refusal ∧
      ∀ trouble, o.run trouble draw verb = .refused o (.tournament refusal)) ∨
      ∃ s, o.tournament.perform draw verb = .ok s ∧
        ∀ trouble, o.run trouble draw verb =
          { o with tournament := s.tournament }.saveTournament trouble s.answer := by
  simp only [run, runAll, perform]
  cases hverb : o.tournament.perform draw verb with
  | error refusal =>
      have hrun := Swiss.run_deed_eq_error_iff.2 ⟨hverb, rfl⟩
      exact .inl ⟨refusal, rfl, fun _ => by rw [hrun]; rfl⟩
  | ok s =>
      have hrun := Swiss.run_deed_eq_ok_iff.2 hverb
      exact .inr ⟨s, rfl, fun _ => by rw [hrun]⟩

theorem run_cases
    (o : Office)
    (trouble : Trouble)
    (draw : Draw)
    (verb : Verb) :
    (∃ refusal, o.tournament.perform draw verb = .error refusal ∧
      o.run trouble draw verb = .refused o (.tournament refusal)) ∨
      ∃ s, o.tournament.perform draw verb = .ok s ∧
        o.run trouble draw verb =
          { o with tournament := s.tournament }.saveTournament trouble s.answer := by
  rcases o.run_decided draw verb with ⟨refusal, hrefused, heq⟩ | ⟨s, hdone, heq⟩
  · exact .inl ⟨refusal, hrefused, heq trouble⟩
  · exact .inr ⟨s, hdone, heq trouble⟩

theorem open?_eq_ok
    {records : Records}
    {trouble : Trouble}
    {policy : Policy}
    {o : Office}
    (h : open? records trouble policy = .ok o) :
    readTournament records.tournament = .ok o.tournament ∧ readQueue records.queue = .ok o.queue ∧
      o.policy = policy ∧ o.records = records := by
  unfold open? openOn at h
  split at h
  · cases h
  · next tournamentRecord htournament =>
    split at h
    · cases h
    · next tournament hreadTournament =>
      split at h
      · cases h
      · next queueRecord hqueue =>
        split at h
        · cases h
        · next queue hreadQueue =>
          cases h
          have htournament : tournamentRecord = records.tournament := by
            unfold Records.read at htournament
            split at htournament <;> cases htournament
            rfl
          have hqueue : queueRecord = records.queue := by
            unfold Records.read at hqueue
            split at hqueue <;> cases hqueue
            rfl
          subst htournament hqueue
          exact ⟨hreadTournament, hreadQueue, rfl, rfl⟩

/-- An office can be opened on records that can be read. -/
theorem open?_of_reads
    {records : Records}
    {tournament : Tournament}
    {queue : Queue}
    (htournament : readTournament records.tournament = .ok tournament)
    (hqueue : readQueue records.queue = .ok queue)
    (policy : Policy) :
    open? records Storage.noTrouble policy = .ok ⟨tournament, queue, policy, records⟩ := by
  simp only [open?, openOn, Records.read, Storage.noTrouble, Records.get, htournament, hqueue]

end Office
end TournamentDesk
