import TournamentDesk.Proofs.Office.Runs

/-!
# What cannot be saved is undone

Under the uniform policy a change of the queue that cannot be saved is undone in memory: a request is
taken back, and an entry that was to be decided is pending again. So the queue in memory and the queue of
the record are the same after every task, however it went.

* `uniform_queue_recorded`: the record of the queue holds the queue in memory.
-/

namespace TournamentDesk

open Registration (Queue)
open Storage (Trouble)
open Swiss (Answer)

namespace Office

/-- Under the uniform policy the queue in memory is that of the record. -/
def Books.InStep (b : Books) : Prop :=
  b.policy = .uniform → b.storedQueue = b.queue

theorem Settled.inStep
    {b b' : Books}
    {queue : Queue}
    {result : Except Problem Answer}
    (h : b.InStep)
    (hsettled : Settled b queue result b') :
    b'.InStep := by
  cases hsettled with
  | saved => exact fun _ => rfl
  | undone policy => exact h
  | kept policy =>
      intro huniform
      rw [policy] at huniform
      cases huniform

theorem Books.InStep.turn
    {b b' : Books}
    {task : Task}
    {result : Except Problem Answer}
    (h : b.InStep)
    (hturn : Turn b task result b') :
    b'.InStep := by
  cases hturn with
  | refused untouched => exact h
  | submitted dated visible fresh free settled => exact settled.inStep h
  | accepted found pending named added committed =>
      cases committed with
      | saved => exact fun _ => rfl
      | unsaved => exact h
      | halfSaved => exact h
  | rejected found pending named settled => exact settled.inStep h
  | played fair nobody effect => exact h
  | playUnsaved fair nobody effect => exact h
  | reopened same storable => exact fun _ => rfl

/-- A problem under the uniform policy leaves the queue in memory as it was. -/
theorem Turn.queue_eq_of_error
    {b b' : Books}
    {task : Task}
    {p : Problem}
    (hpolicy : b.policy = .uniform)
    (hturn : Turn b task (.error p) b') :
    b'.queue = b.queue := by
  have hsettled : ∀ {queue : Queue}, Settled b queue (.error p) b' → b'.queue = b.queue := by
    intro queue hsettled
    cases hsettled with
    | undone policy => rfl
    | kept policy =>
        rw [policy] at hpolicy
        cases hpolicy
  cases hturn with
  | refused untouched => rfl
  | submitted dated visible fresh free settled => exact hsettled settled
  | accepted found pending named added committed => cases committed <;> rfl
  | rejected found pending named settled => exact hsettled settled
  | playUnsaved fair nobody effect => rfl

theorem Run.inStep
    {log : List Event}
    {o : Office}
    (h : Run log o) :
    ∃ t q, Written o.records t q ∧ (o.books t q).Sound ∧ (o.books t q).InStep := by
  refine h.invariant (P := fun _ b => b.InStep) ?_ ?_
  · intro policy _
    rfl
  · intro log b task result b' hb hturn
    exact hb.turn hturn

/-- While an office works under the uniform policy, the record of the queue is read as the queue in memory,
and a task that ends with a problem leaves the queue in memory as it was. -/
theorem uniform_queue_recorded
    {log : List Event}
    {o : Office}
    (h : Run log o)
    (hpolicy : o.policy = .uniform) :
    readQueue o.records.queue = .ok o.queue ∧
      ∀ {trouble : Trouble} {task : Task} {out : Outcome Answer}, Does o trouble task out →
        ∀ {p : Problem}, out.result = .error p → out.office.queue = o.queue := by
  obtain ⟨t, q, hwritten, hsound, hstep⟩ := h.inStep
  constructor
  · have hsame : q = o.queue := hstep hpolicy
    rw [← hsame]
    exact hwritten.readQueue hsound.storedQueue
  · intro trouble task out hdoes p hresult
    obtain ⟨t', q', htracked⟩ := hdoes.tracked hwritten hsound
    have hturn := htracked.turn
    rw [hresult] at hturn
    exact hturn.queue_eq_of_error hpolicy

/-- The queue cannot be saved. -/
def noQueueSaved : Trouble
  | .tournament => none
  | .queue => some (.unavailable "no space")

theorem uniform_queue_recorded_ann :
    ∃ log, Run log annAsked ∧
      annAsked.policy = .uniform ∧
      readQueue annAsked.records.queue = .ok annAsked.queue ∧
      (annAsked.submit noQueueSaved springDay "Bob").result =
        .error (.storage (.unavailable "no space")) ∧
      (annAsked.submit noQueueSaved springDay "Bob").office.queue = annAsked.queue ∧
      (annAsked.reject noQueueSaved "Ann").result =
        .error (.storage (.unavailable "no space")) ∧
      (annAsked.reject noQueueSaved "Ann").office.queue = annAsked.queue := by
  obtain ⟨log, hasked⟩ := annAsked_run
  obtain ⟨hrecord, hkept⟩ := uniform_queue_recorded hasked rfl
  have hsubmit : (annAsked.submit noQueueSaved springDay "Bob").result =
      .error (.storage (.unavailable "no space")) := by
    decide +kernel
  have hreject : (annAsked.reject noQueueSaved "Ann").result =
      .error (.storage (.unavailable "no space")) := by
    decide +kernel
  have hsubmits : Does annAsked noQueueSaved (.submit springDay "Bob") _ := .submit (by decide)
  have hrejects : Does annAsked noQueueSaved (.reject "Ann") _ := .reject
  refine ⟨log, hasked, rfl, hrecord, hsubmit, ?_, hreject, ?_⟩
  · exact hkept hsubmits (congrArg (Except.map fun _ => none) hsubmit)
  · exact hkept hrejects (congrArg (Except.map fun _ => none) hreject)

end Office
end TournamentDesk
