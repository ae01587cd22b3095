import TournamentDesk.Proofs.Http.Requests
import TournamentDesk.Proofs.Office.Requests
import TournamentDesk.Proofs.Office.Saved

/-!
# A service while all goes well

What a request asks of the office is one of its tasks, so a service that has answered requests has an office
that has done tasks, and what holds in every run of an office holds there. While nothing goes wrong, the
records hold what is in memory, too.

* `handle_does`: a request has the office do a task, or nothing changes.
* `Reachable`: the states of a service that was first opened on no records, while all goes well.
* `Reachable.runWhole`, `Reachable.upToDate`: the office of such a service is in a run in which nothing was
  done in part, with its records up to date.
* `Reachable.waiting_free`: nobody waits there under the name of a player.
-/

namespace TournamentDesk

namespace Http

open Office (Does Outcome ReadsAs Run Task Whole)
open Storage (Records)

/-! ## Actions as tasks -/

/-- What an action asks of the office, if that is more than to show something. -/
def Action.task? (c : Circumstances) : Action → Option Task
  | .register name => some (.submit c.now name)
  | .accept name => some (.accept name)
  | .reject name => some (.reject name)
  | .change verb => some (.play c.draw verb)
  | _ => none

theorem act_of_no_task
    {c : Circumstances}
    {a : Action}
    (h : a.task? c = none)
    (o : Office) :
    (act o c a).office = o := by
  cases a <;> first | rfl | cases h

theorem Action.task?_ne_reopen
    {c : Circumstances}
    {a : Action}
    {task : Task}
    (h : a.task? c = some task)
    (policy : Office.Policy) :
    task ≠ .reopen policy := by
  rintro rfl
  cases a <;> cases h

/-- No request adds a player but by way of the queue. -/
theorem Endpoint.action_ne_add
    {e : Endpoint}
    {r : Request}
    {a : Action}
    (h : e.action r = .ok a)
    (name : String) :
    a ≠ .change (.add name) := by
  rintro rfl
  cases e with
  | results =>
      obtain ⟨verb, hbody, hverb⟩ := Swiss.except_map_eq_ok h
      cases hverb
      obtain ⟨vs, hvs⟩ := Json.readBytes_readRecord (Request.readBody_eq_ok_iff.1 hbody).1.reads
      cases hvs
  | register | accept | reject | pair | removePlayer =>
      obtain ⟨a, -, ha⟩ := Swiss.except_map_eq_ok h
      cases ha
  | _ => cases h

/-- Nothing goes wrong with the records, the first round is drawn from those who play, and the clock gives a
time in the range of years. -/
structure Circumstances.Healthy (c : Circumstances) : Prop where
  records : c.trouble = Storage.noTrouble
  fair : c.draw.Fair
  dated : c.now.date.inRange = true

theorem act_does
    {c : Circumstances}
    (hc : c.Healthy)
    {a : Action}
    {task : Task}
    (htask : a.task? c = some task)
    (hnobody : ∀ name, a ≠ .change (.add name))
    (o : Office) :
    ∃ out, Does o c.trouble task out ∧ (act o c a).office = out.office := by
  cases a with
  | register name =>
      cases htask
      exact ⟨_, .submit hc.dated, Served.ofOutcome_office _ _⟩
  | accept name =>
      cases htask
      exact ⟨_, .accept, Served.ofOutcome_office _ _⟩
  | reject name =>
      cases htask
      exact ⟨_, .reject, Served.ofOutcome_office _ _⟩
  | change verb =>
      cases htask
      have hverb : ∀ name, verb ≠ .add name := fun name heq => hnobody name (congrArg Action.change heq)
      exact ⟨_, .play hc.fair hverb, Served.ofOutcome_office _ _⟩
  | _ => cases htask

namespace Service

/-- A request has the office do a task, or nothing changes. -/
theorem handle_does
    (s : Service)
    {c : Circumstances}
    (hc : c.Healthy)
    (r : Request) :
    (s.handle c r).2 = s ∨
      ∃ task out, Does s.office c.trouble task out ∧ (∀ policy, task ≠ .reopen policy) ∧
        (s.handle c r).2 = { s with office := out.office } := by
  rcases s.handle_cases c r with heq | ⟨e, a, -, -, -, ha, heq⟩
  · exact .inl heq
  · cases htask : a.task? c with
    | none =>
        left
        rw [heq, act_of_no_task htask]
    | some task =>
        obtain ⟨out, hdoes, hout⟩ := act_does hc htask (Endpoint.action_ne_add ha) s.office
        refine .inr ⟨task, out, hdoes, Action.task?_ne_reopen htask, ?_⟩
        rw [heq, hout]

/-! ## States of a service -/

/-- The states of a service that was first opened on no records and has answered requests, while all went
well. -/
inductive Reachable : Service → Prop
  | opened
      {policy : Office.Policy}
      {o : Office}
      {token : String} :
      Office.open? Records.empty Storage.noTrouble policy = .ok o →
      Reachable ⟨o, token⟩
  | answered
      {s : Service}
      {c : Circumstances} :
      Reachable s →
      c.Healthy →
      (r : Request) →
      Reachable (s.handle c r).2

/-- What a request has the office do is done whole. -/
theorem handle_whole
    (s : Service)
    {c : Circumstances}
    (hc : c.Healthy)
    (r : Request) :
    (s.handle c r).2 = s ∨
      ∃ task out, Does s.office c.trouble task out ∧ Whole s.office out ∧
        (s.handle c r).2 = { s with office := out.office } := by
  rcases s.handle_does hc r with heq | ⟨task, out, hdoes, hstays, heq⟩
  · exact .inl heq
  · refine .inr ⟨task, out, hdoes, ?_, heq⟩
    rw [hc.records] at hdoes
    exact hdoes.whole hstays

/-- The office of a service is in a run in which nothing was done in part. -/
theorem Reachable.runWhole
    {s : Service}
    (h : s.Reachable) :
    ∃ log, Run log s.office ∧
      ∀ event ∈ log, ∀ name stage cause,
        event.result ≠ .error (.partialCommit name stage cause) := by
  induction h with
  | opened hopen => exact ⟨[], .opened hopen, fun _ hevent => by cases hevent⟩
  | @answered s c hs hc r ih =>
      obtain ⟨log, hrun, hlog⟩ := ih
      rcases s.handle_whole hc r with heq | ⟨task, out, hdoes, hwhole, heq⟩ <;> rw [heq]
      · exact ⟨log, hrun, hlog⟩
      · refine ⟨_, hrun.step hdoes, ?_⟩
        intro event hevent
        rcases List.mem_append.1 hevent with hevent | hevent
        · exact hlog event hevent
        · rw [List.mem_singleton.1 hevent]
          exact hwhole.not_partial

theorem Reachable.run
    {s : Service}
    (h : s.Reachable) :
    ∃ log, Run log s.office := by
  obtain ⟨log, hrun, -⟩ := h.runWhole
  exact ⟨log, hrun⟩

theorem Reachable.upToDate
    {s : Service}
    (h : s.Reachable) :
    s.office.UpToDate := by
  induction h with
  | opened hopen => exact Office.upToDate_of_open hopen
  | @answered s c hs hc r ih =>
      rcases s.handle_whole hc r with heq | ⟨task, out, -, hwhole, heq⟩ <;> rw [heq]
      · exact ih
      · exact hwhole.upToDate ih

/-- Nobody waits under the name of a player, up to case and blanks at the ends. -/
theorem Reachable.waiting_free
    {s : Service}
    (h : s.Reachable)
    {e : Registration.Entrant}
    (he : e ∈ s.office.queue.entries)
    (hpending : e.isPending = true)
    {p : Swiss.Player}
    (hp : p ∈ s.office.tournament.players) :
    Text.sameName p.name e.name = false := by
  obtain ⟨log, hrun, hlog⟩ := h.runWhole
  obtain ⟨t, q, -, -, hclear⟩ := hrun.clear
  by_contra hsame
  rw [Bool.not_eq_false] at hsame
  obtain ⟨asked, entry, stage, cause, hevent, -⟩ :=
    hclear.queue e he hpending p.name (List.mem_map_of_mem hp) hsame
  exact hlog _ hevent entry stage cause rfl

/-- What is in memory fits the records. -/
theorem Reachable.sound
    {s : Service}
    (h : s.Reachable) :
    (s.office.books s.office.tournament s.office.queue).Sound := by
  obtain ⟨log, hrun⟩ := h.run
  obtain ⟨t, q, -, hsound, -⟩ := hrun.orderly
  exact ⟨hsound.tournament, hsound.queue, hsound.tournament, hsound.queue⟩

/-- Nobody waits twice, and everybody has a name. -/
theorem Reachable.orderly
    {s : Service}
    (h : s.Reachable) :
    s.office.queue.Orderly := by
  obtain ⟨log, hrun⟩ := h.run
  obtain ⟨t, q, -, -, horderly⟩ := hrun.orderly
  exact horderly.queue

/-- The records are read as what is in memory. -/
theorem Reachable.readsAs
    {s : Service}
    (h : s.Reachable) :
    ReadsAs s.office.records s.office.tournament s.office.queue :=
  h.upToDate.readsAs h.sound.storedTournament h.sound.storedQueue

theorem Reachable.readQueue
    {s : Service}
    (h : s.Reachable) :
    Office.readQueue s.office.records.queue = .ok s.office.queue :=
  h.readsAs.readQueue

end Service

end Http
end TournamentDesk
