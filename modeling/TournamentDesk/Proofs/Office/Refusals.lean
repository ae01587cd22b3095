import TournamentDesk.Proofs.Office.Operations

/-!
# Refusals touch nothing

An operation that does not succeed was refused, or it could not save what it had changed, and the problem
says which. Memory is worked on in place, so what an operation has changed by the time it is refused would
stay. But a verb looks before it changes the tournament, a request is taken in only after all checks, and an
entry that was looked up can always be marked, also after its entrant has been added to the roster.

* `Traceless`: what an operation that does not succeed may leave behind.
* `refusal_touches_nothing`: every operation of an office at work is traceless.
-/

namespace TournamentDesk

open Registration (Queue)
open Storage (Trouble)
open Swiss (Draw PlayerId Tournament Verb)
open Time (Instant)

namespace Office

/-- Whether a problem is that something could not be saved. -/
def Problem.isUnsaved : Problem → Bool
  | .storage _ => true
  | .partialCommit _ _ _ => true
  | _ => false

/-- How an operation may fail. -/
structure Traceless (o : Office) {α : Type} (out : Outcome α) : Prop where
  /-- A refusal leaves memory and records as they were, and nothing was written. -/
  refused : ∀ p, out.result = .error p → p.isUnsaved = false → out.office = o ∧ out.writes = []
  /-- The other problems arise only from a write that failed. -/
  unsaved : ∀ p, out.result = .error p → p.isUnsaved = true → ∃ w ∈ out.writes, w.succeeded = false

/-! ## Endings -/

theorem traceless_of_refused
    {α : Type}
    (o : Office)
    {p : Problem}
    (hp : p.isUnsaved = false) :
    Traceless o (Outcome.refused (α := α) o p) := by
  constructor
  · intro p' _ _
    exact ⟨rfl, rfl⟩
  · intro p' hresult hunsaved
    cases hresult
    rw [hp] at hunsaved
    cases hunsaved

theorem traceless_of_ok
    {o : Office}
    {α : Type}
    {out : Outcome α}
    {a : α}
    (h : out.result = .ok a) :
    Traceless o out := by
  constructor <;>
  · intro p hresult
    rw [h] at hresult
    cases hresult

theorem traceless_of_unsaved
    {o : Office}
    {α : Type}
    {out : Outcome α}
    {p : Problem}
    (h : out.result = .error p)
    (hp : p.isUnsaved = true)
    (hwrites : ∃ w ∈ out.writes, w.succeeded = false) :
    Traceless o out := by
  constructor
  · intro p' hresult hrefused
    rw [h] at hresult
    cases hresult
    rw [hp] at hrefused
    cases hrefused
  · intro p' _ _
    exact hwrites

/-! ## Saving -/

theorem settle_traceless
    (o : Office)
    (trouble : Trouble)
    (queue : Queue) :
    Traceless o (o.settle trouble queue) := by
  unfold settle
  cases htrouble : trouble .queue with
  | none => exact traceless_of_ok rfl
  | some fault =>
      refine traceless_of_unsaved rfl rfl ?_
      simp [queueWrite, htrouble]

theorem commit_traceless
    (o : Office)
    (trouble : Trouble)
    (name : String)
    (tournament : Tournament)
    (id : PlayerId)
    (queue : Queue) :
    Traceless o (o.commit trouble name tournament id queue) := by
  unfold commit
  cases hfirst : trouble .tournament with
  | some fault =>
      refine traceless_of_unsaved rfl rfl ?_
      simp [tournamentWrite, hfirst]
  | none =>
      cases hsecond : trouble .queue with
      | some fault =>
          refine traceless_of_unsaved rfl rfl ?_
          simp [queueWrite, hsecond]
      | none => exact traceless_of_ok rfl

theorem saveTournament_traceless
    {α : Type}
    (o changed : Office)
    (trouble : Trouble)
    (answer : α) :
    Traceless o (changed.saveTournament trouble answer) := by
  unfold saveTournament
  cases htrouble : trouble .tournament with
  | none => exact traceless_of_ok rfl
  | some fault =>
      refine traceless_of_unsaved rfl rfl ?_
      simp [tournamentWrite, htrouble]

/-! ## Operations -/

theorem submit_traceless
    (o : Office)
    (trouble : Trouble)
    (now : Instant)
    (name : String) :
    Traceless o (o.submit trouble now name) := by
  rcases o.submit_cases trouble now name with ⟨refusal, -, heq⟩ | ⟨-, heq⟩ <;> rw [heq]
  · exact traceless_of_refused o rfl
  · exact o.settle_traceless trouble _

theorem reject_traceless
    (o : Office)
    (trouble : Trouble)
    (name : String) :
    Traceless o (o.reject trouble name) := by
  rcases o.reject_cases trouble name with ⟨refusal, -, heq⟩ | ⟨found, e, -, -, -, -, heq⟩ <;> rw [heq]
  · exact traceless_of_refused o rfl
  · exact o.settle_traceless trouble _

/-- An acceptance is refused by the queue, or by the tournament when the entry has been found already. -/
theorem accept_traceless
    (o : Office)
    (trouble : Trouble)
    (name : String) :
    Traceless o (o.accept trouble name) := by
  rcases o.accept_cases trouble name with
    ⟨refusal, -, heq⟩ | ⟨found, e, -, -, -, -, ⟨refusal, -, heq⟩ | ⟨tournament, id, -, heq⟩⟩ <;> rw [heq]
  · exact traceless_of_refused o rfl
  · exact traceless_of_refused o rfl
  · exact o.commit_traceless trouble e.name tournament id _

theorem run_traceless
    (o : Office)
    (trouble : Trouble)
    (draw : Draw)
    (verb : Verb) :
    Traceless o (o.run trouble draw verb) := by
  rcases o.run_cases trouble draw verb with ⟨refusal, -, heq⟩ | ⟨s, -, heq⟩ <;> rw [heq]
  · exact traceless_of_refused o rfl
  · exact o.saveTournament_traceless _ trouble s.answer

/-- A problem other than that something could not be saved leaves memory and records as they were, and
nothing was written. The other problems arise only from a write that failed. -/
theorem refusal_touches_nothing
    (o : Office)
    (trouble : Trouble) :
    (∀ now name, Traceless o (o.submit trouble now name)) ∧
      (∀ name, Traceless o (o.accept trouble name)) ∧
      (∀ name, Traceless o (o.reject trouble name)) ∧
      ∀ draw verb, Traceless o (o.run trouble draw verb) :=
  ⟨o.submit_traceless trouble, o.accept_traceless trouble, o.reject_traceless trouble,
    o.run_traceless trouble⟩

/-- Ann plays and waits again, in an office that keeps what it cannot save. -/
def annPlaysAndWaits : Office :=
  ⟨{ Tournament.empty with lastId := 1, players := [⟨1, "Ann", false⟩] }, ⟨[⟨"Ann", .pending, none⟩]⟩,
    .acceptOnly, ⟨none, none⟩⟩

/-- Nothing can be saved. -/
def nothingSaved : Trouble :=
  fun _ => some (.unavailable "no space")

theorem refusal_touches_nothing_ann :
    (annPlaysAndWaits.accept nothingSaved " ann").result =
        .error (.tournament (.duplicatePlayer "Ann")) ∧
      (annPlaysAndWaits.accept nothingSaved " ann").office = annPlaysAndWaits ∧
      (annPlaysAndWaits.accept nothingSaved " ann").writes = [] ∧
      (annPlaysAndWaits.reject nothingSaved "Ann").result =
        .error (.storage (.unavailable "no space")) ∧
      ∃ w ∈ (annPlaysAndWaits.reject nothingSaved "Ann").writes, w.succeeded = false := by
  have hrefused : (annPlaysAndWaits.accept nothingSaved " ann").result =
      .error (.tournament (.duplicatePlayer "Ann")) := by
    decide +kernel
  have hunsaved : (annPlaysAndWaits.reject nothingSaved "Ann").result =
      .error (.storage (.unavailable "no space")) := by
    decide +kernel
  obtain ⟨-, haccept, hreject, -⟩ := refusal_touches_nothing annPlaysAndWaits nothingSaved
  obtain ⟨hoffice, hwrites⟩ := (haccept " ann").refused _ hrefused rfl
  exact ⟨hrefused, hoffice, hwrites, hunsaved, (hreject "Ann").unsaved _ hunsaved rfl⟩

end Office
end TournamentDesk
