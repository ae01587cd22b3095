import TournamentDesk.Proofs.Office.Runs

/-!
# While every write succeeds

As long as nothing goes wrong with the records, every task saves what it changes, so that the records hold
what is in memory.

* `UpToDate`: the records hold what is in memory.
* `Does.whole`: a task is refused, or it is done and leaves the records up to date. Nothing is done in part.
-/

namespace TournamentDesk

open Registration (Queue)
open Storage (RecordName Records Trouble)
open Swiss (Answer PlayerId Tournament)

namespace Office

/-- The records hold what is in memory. -/
def UpToDate (o : Office) : Prop :=
  Written o.records o.tournament o.queue

theorem upToDate_of_open
    {trouble : Trouble}
    {policy : Policy}
    {o : Office}
    (h : open? Records.empty trouble policy = .ok o) :
    o.UpToDate := by
  obtain ⟨htournament, hqueue, -, hrecords⟩ := open?_eq_ok h
  obtain ⟨tournament, queue, policy, records⟩ := o
  cases htournament
  cases hqueue
  cases hrecords
  exact written_empty

/-- A task is refused and changes nothing, or it is done and leaves the records up to date. -/
inductive Whole (o : Office) : Outcome Answer → Prop
  | refused
      {p : Problem} :
      (∀ name stage cause, p ≠ .partialCommit name stage cause) →
      Whole o (.refused o p)
  | done
      {out : Outcome Answer}
      {answer : Answer} :
      out.result = .ok answer →
      (o.UpToDate → out.office.UpToDate) →
      Whole o out

theorem noTrouble_none (record : RecordName) : Storage.noTrouble record = none :=
  rfl

theorem whole_settle
    (o : Office)
    (queue : Queue)
    (f : Unit → Answer) :
    Whole o ((o.settle Storage.noTrouble queue).answered f) := by
  obtain ⟨hresult, hoffice⟩ := o.settle_saved (noTrouble_none .queue) queue
  have hanswered : ((o.settle Storage.noTrouble queue).answered f).result = .ok (f ()) := by
    rw [Outcome.answered, hresult]
    rfl
  refine .done hanswered fun h => ?_
  rw [Outcome.answered, hoffice]
  exact ⟨h.tournament, .inr rfl⟩

theorem whole_commit
    (o : Office)
    (name : String)
    (tournament : Tournament)
    (id : PlayerId)
    (queue : Queue) :
    Whole o ((o.commit Storage.noTrouble name tournament id queue).answered some) := by
  obtain ⟨hresult, hoffice⟩ :=
    o.commit_saved (noTrouble_none .tournament) (noTrouble_none .queue) name tournament id queue
  have hanswered : ((o.commit Storage.noTrouble name tournament id queue).answered some).result =
      .ok (some id) := by
    rw [Outcome.answered, hresult]
    rfl
  refine .done hanswered fun _ => ?_
  rw [Outcome.answered, hoffice]
  exact ⟨.inr rfl, .inr rfl⟩

/-- While nothing goes wrong with the records, no task is done in part. -/
theorem Does.whole
    {o : Office}
    {task : Task}
    {out : Outcome Answer}
    (hdoes : Does o Storage.noTrouble task out)
    (hstays : ∀ policy, task ≠ .reopen policy) :
    Whole o out := by
  cases hdoes with
  | @submit now name dated =>
      rcases o.submit_cases Storage.noTrouble now name with ⟨refusal, -, heq⟩ | ⟨-, heq⟩ <;> rw [heq]
      · exact .refused fun _ _ _ hp => by cases hp
      · exact whole_settle o _ _
  | @accept name =>
      rcases o.accept_cases Storage.noTrouble name with
        ⟨refusal, -, heq⟩ | ⟨found, e, -, -, -, -, ⟨refusal, -, heq⟩ | ⟨tournament, id, -, heq⟩⟩ <;>
        rw [heq]
      · exact .refused fun _ _ _ hp => by cases hp
      · exact .refused fun _ _ _ hp => by cases hp
      · exact whole_commit o e.name tournament id _
  | @reject name =>
      rcases o.reject_cases Storage.noTrouble name with
        ⟨refusal, -, heq⟩ | ⟨found, e, -, -, -, -, heq⟩ <;> rw [heq]
      · exact .refused fun _ _ _ hp => by cases hp
      · exact whole_settle o _ _
  | @play draw verb fair nobody =>
      rcases o.run_cases Storage.noTrouble draw verb with ⟨refusal, -, heq⟩ | ⟨s, -, heq⟩ <;> rw [heq]
      · exact .refused fun _ _ _ hp => by cases hp
      · obtain ⟨hresult, hoffice⟩ := saveTournament_saved { o with tournament := s.tournament }
          (noTrouble_none .tournament) s.answer
        refine .done hresult fun h => ?_
        rw [hoffice]
        exact ⟨.inr rfl, h.queue⟩
  | @reopen policy o' opened => exact absurd rfl (hstays policy)

theorem Whole.upToDate
    {o : Office}
    {out : Outcome Answer}
    (hwhole : Whole o out)
    (h : o.UpToDate) :
    out.office.UpToDate := by
  cases hwhole with
  | refused => exact h
  | done _ saved => exact saved h

theorem Whole.not_partial
    {o : Office}
    {out : Outcome Answer}
    (h : Whole o out)
    (name : String)
    (stage : Stage)
    (cause : Problem) :
    out.result ≠ .error (.partialCommit name stage cause) := by
  cases h with
  | refused hp => exact fun heq => hp name stage cause (Except.error.inj heq)
  | done hresult => simp [hresult]

end Office
end TournamentDesk
