import TournamentDesk.Office.Decisions
import TournamentDesk.Office.Rounds
import TournamentDesk.Proofs.Registration.Queue
import TournamentDesk.Proofs.Registration.Record
import TournamentDesk.Proofs.Swiss.Storable

/-!
# The books of an office

An office has a tournament and a queue in memory and a record of each. Its books are these four, with
the records taken for what they hold. `Turn` lists how one task changes the books, failed writes
included, and everything about runs of an office is read off from it.

* `Books.Sound.turn`: what is in the books can be written and read after every turn.
* `Turn.known`: no turn takes anybody off the roster of the record.
* `ReadsAs`: what a reading of the records gives.
-/

namespace TournamentDesk

open Registration (Entrant Queue Status)
open Storage (Fault Records)
open Swiss (Answer Draw Effect PlayerId Step Storable Tournament Verb)
open Time (Instant)

namespace Office

/-! ## Tasks -/

/-- What is asked of an office. -/
inductive Task where
  | submit (now : Instant) (name : String)
  | accept (name : String)
  | reject (name : String)
  | play (draw : Draw) (verb : Verb)
  | reopen (policy : Policy)

/-- A task and how it went. -/
structure Event where
  task : Task
  result : Except Problem Answer

/-! ## Turns -/

/-- What an office and its records hold. -/
structure Books where
  policy : Policy
  tournament : Tournament
  queue : Queue
  storedTournament : Tournament
  storedQueue : Queue

/-- The books of an office whose records hold a tournament and a queue. -/
def books (o : Office) (storedTournament : Tournament) (storedQueue : Queue) : Books :=
  ⟨o.policy, o.tournament, o.queue, storedTournament, storedQueue⟩

/-- What becomes of a change of the queue. -/
inductive Settled (b : Books) (queue : Queue) : Except Problem Answer → Books → Prop
  | saved :
      Settled b queue (.ok none) { b with queue, storedQueue := queue }
  | undone
      {fault : Fault}
      (policy : b.policy = .uniform) :
      Settled b queue (.error (.storage fault)) b
  | kept
      {fault : Fault}
      (policy : b.policy = .acceptOnly) :
      Settled b queue (.error (.storage fault)) { b with queue }

/-- What becomes of an acceptance, which saves the tournament before the queue. The player stays on the
roster in any case. -/
inductive Committed (b : Books) (name : String) (tournament : Tournament) (id : PlayerId)
    (queue : Queue) : Except Problem Answer → Books → Prop
  | saved :
      Committed b name tournament id queue (.ok (some id))
        { b with tournament, queue, storedTournament := tournament, storedQueue := queue }
  | unsaved
      {fault : Fault} :
      Committed b name tournament id queue
        (.error (.partialCommit name .tournament (.storage fault))) { b with tournament }
  | halfSaved
      {fault : Fault} :
      Committed b name tournament id queue
        (.error (.partialCommit name .queue (.storage fault)))
        { b with tournament, storedTournament := tournament }

/-- How a task changes the books, with the conditions under which it is not refused. -/
inductive Turn (b : Books) : Task → Except Problem Answer → Books → Prop
  | refused
      {task : Task}
      {p : Problem}
      (untouched : ∀ name stage cause, p ≠ .partialCommit name stage cause) :
      Turn b task (.error p) b
  | submitted
      {now : Instant}
      {name : String}
      {result : Except Problem Answer}
      {b' : Books}
      (dated : now.date.inRange = true)
      (visible : Text.isBlank name = false)
      (fresh : ∀ e ∈ b.queue.entries, e.isPending = true → Text.sameName e.name name = false)
      (free : ∀ p ∈ b.tournament.players, Text.sameName p.name name = false)
      (settled : Settled b (b.queue.push name now) result b') :
      Turn b (.submit now name) result b'
  | accepted
      {name : String}
      {i : Nat}
      {e : Entrant}
      {tournament : Tournament}
      {id : PlayerId}
      {result : Except Problem Answer}
      {b' : Books}
      (found : b.queue.entries[i]? = some e)
      (pending : e.status = .pending)
      (named : Text.sameName e.name name = true)
      (added : b.tournament.addPlayer e.name = .ok (tournament, id))
      (committed : Committed b e.name tournament id (b.queue.setStatus i .accepted) result b') :
      Turn b (.accept name) result b'
  | rejected
      {name : String}
      {i : Nat}
      {e : Entrant}
      {result : Except Problem Answer}
      {b' : Books}
      (found : b.queue.entries[i]? = some e)
      (pending : e.status = .pending)
      (named : e.name = name)
      (settled : Settled b (b.queue.setStatus i .rejected) result b') :
      Turn b (.reject name) result b'
  | played
      {draw : Draw}
      {verb : Verb}
      {s : Step}
      (fair : draw.Fair)
      (nobody : ∀ name, verb ≠ .add name)
      (effect : Effect b.tournament draw verb s) :
      Turn b (.play draw verb) (.ok s.answer)
        { b with tournament := s.tournament, storedTournament := s.tournament }
  | playUnsaved
      {draw : Draw}
      {verb : Verb}
      {s : Step}
      {fault : Fault}
      (fair : draw.Fair)
      (nobody : ∀ name, verb ≠ .add name)
      (effect : Effect b.tournament draw verb s) :
      Turn b (.play draw verb) (.error (.storage fault)) { b with tournament := s.tournament }
  | reopened
      {policy : Policy}
      {tournament : Tournament}
      (same : b.storedTournament.SameCounts tournament)
      (storable : Storable tournament) :
      Turn b (.reopen policy) (.ok none)
        ⟨policy, tournament, b.storedQueue, b.storedTournament, b.storedQueue⟩

/-- Only opening an office again changes its policy. -/
theorem Turn.policy_eq
    {b b' : Books}
    {task : Task}
    {result : Except Problem Answer}
    (hturn : Turn b task result b')
    (htask : ∀ other, task = .reopen other → other = b.policy) :
    b'.policy = b.policy := by
  cases hturn with
  | submitted dated visible fresh free settled => cases settled <;> rfl
  | accepted found pending named added committed => cases committed <;> rfl
  | rejected found pending named settled => cases settled <;> rfl
  | @reopened policy tournament same storable => exact htask policy rfl
  | _ => rfl

/-! ## What can be written -/

/-- Books whose tournaments and queues can be written and read again. -/
structure Books.Sound (b : Books) : Prop where
  tournament : Storable b.tournament
  queue : ∀ e ∈ b.queue.entries, e.Fits
  storedTournament : Storable b.storedTournament
  storedQueue : ∀ e ∈ b.storedQueue.entries, e.Fits

theorem Settled.sound
    {b b' : Books}
    {queue : Queue}
    {result : Except Problem Answer}
    (h : b.Sound)
    (hqueue : ∀ e ∈ queue.entries, e.Fits)
    (hsettled : Settled b queue result b') :
    b'.Sound := by
  cases hsettled with
  | saved => exact ⟨h.tournament, hqueue, h.storedTournament, hqueue⟩
  | undone policy => exact h
  | kept policy => exact ⟨h.tournament, hqueue, h.storedTournament, h.storedQueue⟩

theorem fits_push
    {q : Queue}
    (h : ∀ e ∈ q.entries, e.Fits)
    {now : Instant}
    (hdated : now.date.inRange = true)
    (name : String) :
    ∀ e ∈ (q.push name now).entries, e.Fits := by
  refine Queue.forall_push h ?_
  intro t ht
  cases ht
  exact hdated

theorem fits_setStatus
    {q : Queue}
    (h : ∀ e ∈ q.entries, e.Fits)
    (i : Nat)
    (s : Status) :
    ∀ e ∈ (q.setStatus i s).entries, e.Fits :=
  Queue.forall_setStatus h fun e he => h e (List.mem_of_getElem? he)

theorem storable_addPlayer
    {t t' : Tournament}
    (h : Storable t)
    {name : String}
    {id : PlayerId}
    (hadded : t.addPlayer name = .ok (t', id)) :
    Storable t' := by
  obtain ⟨hvisible, hphase, hnew, heq⟩ := Swiss.addPlayer_eq_ok hadded
  cases heq
  exact h.step Swiss.Draw.fair_id (.added hvisible hphase hnew)

/-- What is in the books can be written and read after every turn. -/
theorem Books.Sound.turn
    {b b' : Books}
    {task : Task}
    {result : Except Problem Answer}
    (h : b.Sound)
    (hturn : Turn b task result b') :
    b'.Sound := by
  cases hturn with
  | refused untouched => exact h
  | submitted dated visible fresh free settled =>
      exact settled.sound h (fits_push h.queue dated _)
  | @accepted name i e tournament id result b' found pending named added committed =>
      have htournament := storable_addPlayer h.tournament added
      have hqueue := fits_setStatus h.queue i .accepted
      cases committed with
      | saved => exact ⟨htournament, hqueue, htournament, hqueue⟩
      | unsaved => exact ⟨htournament, h.queue, h.storedTournament, h.storedQueue⟩
      | halfSaved => exact ⟨htournament, h.queue, htournament, h.storedQueue⟩
  | rejected found pending named settled => exact settled.sound h (fits_setStatus h.queue _ _)
  | played fair nobody effect =>
      have htournament := h.tournament.step fair effect
      exact ⟨htournament, h.queue, htournament, h.storedQueue⟩
  | playUnsaved fair nobody effect =>
      exact ⟨h.tournament.step fair effect, h.queue, h.storedTournament, h.storedQueue⟩
  | reopened same storable =>
      exact ⟨storable, h.storedQueue, h.storedTournament, h.storedQueue⟩

/-! ## Names on the rosters -/

theorem names_grow
    {t t' : Tournament}
    {name : String}
    {id : PlayerId}
    (h : t.addPlayer name = .ok (t', id)) :
    t.names ⊆ t'.names := by
  rw [Swiss.names_of_addPlayer h]
  exact List.subset_append_left _ _

/-- The roster of the record is behind that in memory, if anything, and loses nobody. -/
theorem Turn.known
    {b b' : Books}
    {task : Task}
    {result : Except Problem Answer}
    (hturn : Turn b task result b')
    (h : b.storedTournament.names ⊆ b.tournament.names) :
    b'.storedTournament.names ⊆ b'.tournament.names ∧
      b.storedTournament.names ⊆ b'.storedTournament.names := by
  have hself := List.Subset.refl b.storedTournament.names
  cases hturn with
  | refused untouched => exact ⟨h, hself⟩
  | submitted dated visible fresh free settled => cases settled <;> exact ⟨h, hself⟩
  | accepted found pending named added committed =>
      have hgrown := List.Subset.trans h (names_grow added)
      cases committed with
      | saved => exact ⟨List.Subset.refl _, hgrown⟩
      | unsaved => exact ⟨hgrown, hself⟩
      | halfSaved => exact ⟨List.Subset.refl _, hgrown⟩
  | rejected found pending named settled => cases settled <;> exact ⟨h, hself⟩
  | played fair nobody effect =>
      rw [← effect.names_eq nobody] at h
      exact ⟨List.Subset.refl _, h⟩
  | playUnsaved fair nobody effect =>
      rw [← effect.names_eq nobody] at h
      exact ⟨h, hself⟩
  | reopened same storable =>
      rw [same.others]
      exact ⟨hself, hself⟩

/-! ## What is written -/

/-- The records hold a tournament and a queue. -/
structure Written (r : Records) (tournament : Tournament) (queue : Queue) : Prop where
  tournament :
    r.tournament = none ∧ tournament = Tournament.empty ∨ r.tournament = some tournament.toRecord
  queue :
    r.queue = none ∧ queue = Queue.empty ∨
      r.queue = some (Registration.entrantsRecord queue.entries)

theorem written_empty : Written Records.empty Tournament.empty Queue.empty :=
  ⟨.inl ⟨rfl, rfl⟩, .inl ⟨rfl, rfl⟩⟩

theorem after_tournament (r : Records) (octets : ByteArray) :
    r.after ⟨.tournament, octets, true⟩ = { r with tournament := some octets } :=
  rfl

theorem after_queue (r : Records) (octets : ByteArray) :
    r.after ⟨.queue, octets, true⟩ = { r with queue := some octets } :=
  rfl

theorem Written.afterTournament
    {r : Records}
    {t : Tournament}
    {q : Queue}
    (h : Written r t q)
    (t' : Tournament) :
    Written (r.after ⟨.tournament, t'.toRecord, true⟩) t' q := by
  rw [after_tournament]
  exact ⟨.inr rfl, h.queue⟩

theorem Written.afterQueue
    {r : Records}
    {t : Tournament}
    {q : Queue}
    (h : Written r t q)
    (q' : Queue) :
    Written (r.after ⟨.queue, Registration.entrantsRecord q'.entries, true⟩) t q' := by
  rw [after_queue]
  exact ⟨h.tournament, .inr rfl⟩

/-- What a reading of the records gives. A tournament beyond the integer ranges is written all the same,
but nobody can read it; any other comes back up to the percentages of its standings. -/
structure ReadsAs (r : Records) (tournament : Tournament) (queue : Queue) : Prop where
  /-- What the records hold was written. -/
  written : Written r tournament queue
  /-- The tournament can be read. -/
  readable : tournament.InRange → ∃ t, readTournament r.tournament = .ok t
  /-- What is read is the tournament. -/
  readTournament : ∀ t, readTournament r.tournament = .ok t → tournament.SameCounts t
  /-- What is read is the queue. -/
  readQueue : readQueue r.queue = .ok queue

theorem readTournament_some
    {octets : ByteArray}
    {t : Tournament} :
    readTournament (some octets) = .ok t ↔ Tournament.load octets = .ok t := by
  change (Tournament.load octets).mapError Problem.tournament = .ok t ↔ _
  cases Tournament.load octets <;> simp [Except.mapError]

theorem Written.readTournament
    {r : Records}
    {t t' : Tournament}
    {q : Queue}
    (h : Written r t q)
    (hstorable : Storable t)
    (hread : readTournament r.tournament = .ok t') :
    t.SameCounts t' ∧ Storable t' := by
  rcases h.tournament with ⟨hnone, rfl⟩ | hsome
  · rw [hnone] at hread
    cases hread
    exact ⟨⟨rfl, .nil⟩, hstorable⟩
  · rw [hsome] at hread
    exact hstorable.load (readTournament_some.1 hread)

theorem Written.readable
    {r : Records}
    {t : Tournament}
    {q : Queue}
    (h : Written r t q)
    (hstorable : Storable t)
    (hrange : t.InRange) :
    ∃ t', Office.readTournament r.tournament = .ok t' := by
  rcases h.tournament with ⟨hnone, -⟩ | hsome
  · exact ⟨_, by rw [hnone]; rfl⟩
  · obtain ⟨t', hload⟩ := hstorable.load_eq_ok hrange
    refine ⟨t', ?_⟩
    rw [hsome]
    exact readTournament_some.2 hload

theorem Written.readQueue
    {r : Records}
    {t : Tournament}
    {q : Queue}
    (h : Written r t q)
    (hfits : ∀ e ∈ q.entries, e.Fits) :
    Office.readQueue r.queue = .ok q := by
  rcases h.queue with ⟨hnone, rfl⟩ | hsome
  · rw [hnone]
    rfl
  · rw [hsome, Office.readQueue, Storage.readEntrants, Registration.loadEntrants_entrantsRecord hfits]
    rfl

theorem Written.readsAs
    {r : Records}
    {t : Tournament}
    {q : Queue}
    (h : Written r t q)
    (hstorable : Storable t)
    (hfits : ∀ e ∈ q.entries, e.Fits) :
    ReadsAs r t q :=
  ⟨h, h.readable hstorable, fun _ hread => (h.readTournament hstorable hread).1, h.readQueue hfits⟩

end Office
end TournamentDesk
