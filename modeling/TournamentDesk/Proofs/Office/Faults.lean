import TournamentDesk.Proofs.Office.Operations

/-!
# What a fault decides

That an attempt to write fails decides what an operation leaves in memory and in the records. Why it fails
is passed on with the problem, and decides nothing.

* `FailAlike`: the same attempts fail, for whatever reasons.
* `submit_alike`, `accept_alike`, `reject_alike`, `run_alike`: each operation goes alike then.
-/

namespace TournamentDesk

open Registration (Queue)
open Storage (Fault RecordName Trouble)
open Swiss (Draw PlayerId Tournament Verb)
open Time (Instant)

namespace Office

/-- The same attempts fail, for whatever reasons. -/
def FailAlike (a b : Trouble) : Prop :=
  ∀ record : RecordName, (a record).isSome = (b record).isSome

/-- Two problems are the same but for faults of the storage. -/
inductive Problem.Alike : Problem → Problem → Prop
  | same
      (p : Problem) :
      Alike p p
  | storage
      (f g : Fault) :
      Alike (.storage f) (.storage g)
  | partialCommit
      (name : String)
      (stage : Stage)
      {p q : Problem}
      (cause : Alike p q) :
      Alike (.partialCommit name stage p) (.partialCommit name stage q)

/-- Two results are the same but for faults of the storage. -/
inductive ResultsAlike {α : Type} : Except Problem α → Except Problem α → Prop
  | done
      (a : α) :
      ResultsAlike (.ok a) (.ok a)
  | failed
      {p q : Problem}
      (problem : p.Alike q) :
      ResultsAlike (.error p) (.error q)

/-- Two operations went the same way but for faults of the storage. -/
structure Outcome.Alike {α : Type} (out out' : Outcome α) : Prop where
  result : ResultsAlike out.result out'.result
  office : out.office = out'.office
  writes : out.writes = out'.writes

variable {a b : Trouble}

theorem FailAlike.cases
    (h : FailAlike a b)
    (record : RecordName) :
    (a record = none ∧ b record = none) ∨ ∃ f g, a record = some f ∧ b record = some g := by
  have hsome := h record
  cases ha : a record with
  | none =>
      rw [ha] at hsome
      exact .inl ⟨rfl, by simpa using hsome.symm⟩
  | some f =>
      rw [ha] at hsome
      obtain ⟨g, hg⟩ := Option.isSome_iff_exists.1 hsome.symm
      exact .inr ⟨f, g, rfl, hg⟩

theorem refused_alike
    {α : Type}
    (o : Office)
    (p : Problem) :
    (Outcome.refused (α := α) o p).Alike (.refused o p) :=
  ⟨.failed (.same p), rfl, rfl⟩

/-! ## Saving -/

theorem tournamentWrite_congr
    (h : FailAlike a b)
    (o : Office) :
    o.tournamentWrite a = o.tournamentWrite b := by
  simp only [tournamentWrite, ← Option.not_isSome, h .tournament]

theorem queueWrite_congr
    (h : FailAlike a b)
    (o : Office) :
    o.queueWrite a = o.queueWrite b := by
  simp only [queueWrite, ← Option.not_isSome, h .queue]

theorem settle_alike
    (h : FailAlike a b)
    (o : Office)
    (queue : Queue) :
    (o.settle a queue).Alike (o.settle b queue) := by
  rcases h.cases .queue with ⟨ha, hb⟩ | ⟨f, g, ha, hb⟩
  · simp only [settle, queueWrite_congr h, ha, hb]
    exact ⟨.done (), rfl, rfl⟩
  · simp only [settle, queueWrite_congr h, ha, hb]
    exact ⟨.failed (.storage f g), rfl, rfl⟩

theorem commit_alike
    (h : FailAlike a b)
    (o : Office)
    (name : String)
    (tournament : Tournament)
    (id : PlayerId)
    (queue : Queue) :
    (o.commit a name tournament id queue).Alike (o.commit b name tournament id queue) := by
  rcases h.cases .tournament with ⟨ha, hb⟩ | ⟨f, g, ha, hb⟩
  · rcases h.cases .queue with ⟨ha', hb'⟩ | ⟨f, g, ha', hb'⟩
    · simp only [commit, tournamentWrite_congr h, queueWrite_congr h, ha, hb, ha', hb']
      exact ⟨.done id, rfl, rfl⟩
    · simp only [commit, tournamentWrite_congr h, queueWrite_congr h, ha, hb, ha', hb']
      exact ⟨.failed (.partialCommit name .queue (.storage f g)), rfl, rfl⟩
  · simp only [commit, tournamentWrite_congr h, ha, hb]
    exact ⟨.failed (.partialCommit name .tournament (.storage f g)), rfl, rfl⟩

theorem saveTournament_alike
    {α : Type}
    (h : FailAlike a b)
    (o : Office)
    (answer : α) :
    (o.saveTournament a answer).Alike (o.saveTournament b answer) := by
  rcases h.cases .tournament with ⟨ha, hb⟩ | ⟨f, g, ha, hb⟩
  · simp only [saveTournament, tournamentWrite_congr h, ha, hb]
    exact ⟨.done answer, rfl, rfl⟩
  · simp only [saveTournament, tournamentWrite_congr h, ha, hb]
    exact ⟨.failed (.storage f g), rfl, rfl⟩

/-! ## The operations -/

theorem submit_alike
    (h : FailAlike a b)
    (o : Office)
    (now : Instant)
    (name : String) :
    (o.submit a now name).Alike (o.submit b now name) := by
  rcases o.submit_decided now name with ⟨refusal, -, heq⟩ | ⟨-, heq⟩
  · rw [heq, heq]
    exact refused_alike o _
  · rw [heq, heq]
    exact settle_alike h o _

theorem accept_alike
    (h : FailAlike a b)
    (o : Office)
    (name : String) :
    (o.accept a name).Alike (o.accept b name) := by
  rcases o.accept_decided name with ⟨refusal, -, heq⟩ | ⟨found, e, -, -, -, -, hadd⟩
  · rw [heq, heq]
    exact refused_alike o _
  · rcases hadd with ⟨refusal, -, heq⟩ | ⟨tournament, id, -, heq⟩
    · rw [heq, heq]
      exact refused_alike o _
    · rw [heq, heq]
      exact commit_alike h o _ _ _ _

theorem reject_alike
    (h : FailAlike a b)
    (o : Office)
    (name : String) :
    (o.reject a name).Alike (o.reject b name) := by
  rcases o.reject_decided name with ⟨refusal, -, heq⟩ | ⟨found, e, -, -, -, -, heq⟩
  · rw [heq, heq]
    exact refused_alike o _
  · rw [heq, heq]
    exact settle_alike h o _

theorem run_alike
    (h : FailAlike a b)
    (o : Office)
    (draw : Draw)
    (verb : Verb) :
    (o.run a draw verb).Alike (o.run b draw verb) := by
  rcases o.run_decided draw verb with ⟨refusal, -, heq⟩ | ⟨s, -, heq⟩
  · rw [heq, heq]
    exact refused_alike o _
  · rw [heq, heq]
    exact saveTournament_alike h _ _

end Office
end TournamentDesk
