import TournamentDesk.Proofs.Office.Runs

/-!
# Whoever is accepted plays

An entry is marked as accepted only when its player is on the roster, and that is saved first. So the
roster of the record has everybody whom the queue calls accepted, wherever the office stops.

* `accepted_enrolled`: the rosters have all accepted entries, between tasks and between writes.
-/

namespace TournamentDesk

open Registration (Queue Status)
open Storage (Trouble)
open Swiss (Answer Tournament)

namespace Office

/-- Every accepted entry plays under its own name. -/
def Enrolled (q : Queue) (t : Tournament) : Prop :=
  ∀ e ∈ q.entries, e.status = .accepted → e.name ∈ t.names

theorem enrolled_empty (t : Tournament) : Enrolled Queue.empty t := by
  intro e he
  cases he

theorem Enrolled.mono
    {q : Queue}
    {t t' : Tournament}
    (h : Enrolled q t)
    (hnames : t.names ⊆ t'.names) :
    Enrolled q t' :=
  fun e he haccepted => hnames (h e he haccepted)

theorem Enrolled.push
    {q : Queue}
    {t : Tournament}
    (h : Enrolled q t)
    (name : String)
    (now : Time.Instant) :
    Enrolled (q.push name now) t :=
  Queue.forall_push h fun haccepted => by cases haccepted

theorem Enrolled.setStatus
    {q : Queue}
    {t : Tournament}
    (h : Enrolled q t)
    {i : Nat}
    {s : Status}
    (hplays : ∀ e, q.entries[i]? = some e → s = .accepted → e.name ∈ t.names) :
    Enrolled (q.setStatus i s) t :=
  Queue.forall_setStatus h hplays

/-- The roster of the record is behind that in memory, if anything, and has all accepted entries. -/
structure Books.Enrolled (b : Books) : Prop where
  known : b.storedTournament.names ⊆ b.tournament.names
  queue : Office.Enrolled b.queue b.storedTournament
  storedQueue : Office.Enrolled b.storedQueue b.storedTournament

theorem Settled.enrolled
    {b b' : Books}
    {queue : Queue}
    {result : Except Problem Answer}
    (h : b.Enrolled)
    (hqueue : Enrolled queue b.storedTournament)
    (hsettled : Settled b queue result b') :
    b'.Enrolled := by
  cases hsettled with
  | saved => exact ⟨h.known, hqueue, hqueue⟩
  | undone policy => exact h
  | kept policy => exact ⟨h.known, hqueue, h.storedQueue⟩

theorem Books.Enrolled.turn
    {b b' : Books}
    {task : Task}
    {result : Except Problem Answer}
    (h : b.Enrolled)
    (hturn : Turn b task result b') :
    b'.Enrolled := by
  obtain ⟨hknown, hgrown⟩ := hturn.known h.known
  cases hturn with
  | refused untouched => exact h
  | submitted dated visible fresh free settled => exact settled.enrolled h (h.queue.push _ _)
  | @accepted name i e tournament id result b' found pending named added committed =>
      cases committed with
      | saved =>
          have hqueue : Office.Enrolled (b.queue.setStatus i .accepted) tournament := by
            refine (h.queue.mono hgrown).setStatus ?_
            intro e' he' _
            obtain rfl := Option.some.inj (found.symm.trans he')
            rw [Swiss.names_of_addPlayer added]
            exact List.mem_append_right _ (List.mem_singleton_self _)
          exact ⟨hknown, hqueue, hqueue⟩
      | unsaved => exact ⟨hknown, h.queue, h.storedQueue⟩
      | halfSaved => exact ⟨hknown, h.queue.mono hgrown, h.storedQueue.mono hgrown⟩
  | rejected found pending named settled =>
      exact settled.enrolled h (h.queue.setStatus fun _ _ hs => by cases hs)
  | played fair nobody effect => exact ⟨hknown, h.queue.mono hgrown, h.storedQueue.mono hgrown⟩
  | playUnsaved fair nobody effect => exact ⟨hknown, h.queue, h.storedQueue⟩
  | reopened same storable => exact ⟨hknown, h.storedQueue, h.storedQueue⟩

theorem Between.enrolled
    {b b' : Books}
    (h : b.Enrolled)
    (h' : b'.Enrolled)
    (hgrown : b.storedTournament.names ⊆ b'.storedTournament.names)
    {t : Tournament}
    {q : Queue}
    (hbetween : Between b b' t q) :
    Enrolled q t := by
  cases hbetween with
  | before => exact h.storedQueue
  | half => exact h.storedQueue.mono hgrown
  | after => exact h'.storedQueue

theorem Run.enrolled
    {log : List Event}
    {o : Office}
    (h : Run log o) :
    ∃ t q, Written o.records t q ∧ (o.books t q).Sound ∧ (o.books t q).Enrolled := by
  refine h.invariant (P := fun _ b => b.Enrolled) ?_ ?_
  · intro policy
    exact ⟨List.Subset.refl _, enrolled_empty _, enrolled_empty _⟩
  · intro log b task result b' hb hturn
    exact hb.turn hturn

/-- Whoever is accepted plays. Between tasks the rosters in memory and of the record have everybody whom
the queue in memory calls accepted, and at every point of a task, also between two writes, the roster of
the record has everybody whom the queue of the record calls accepted. -/
theorem accepted_enrolled
    {log : List Event}
    {o : Office}
    (h : Run log o) :
    (∃ t q, ReadsAs o.records t q ∧ Enrolled o.queue o.tournament ∧ Enrolled o.queue t ∧
      Enrolled q t) ∧
    ∀ {trouble : Trouble} {task : Task} {out : Outcome Answer}, Does o trouble task out →
      out.office.records = o.records.afterAll out.writes ∧
      ∀ k, ∃ t q, ReadsAs (o.records.afterAll (out.writes.take k)) t q ∧ Enrolled q t := by
  obtain ⟨t, q, hwritten, hsound, henrolled⟩ := h.enrolled
  have hreads := hwritten.readsAs hsound.storedTournament hsound.storedQueue
  refine ⟨⟨t, q, hreads, henrolled.queue.mono henrolled.known, henrolled.queue,
    henrolled.storedQueue⟩, ?_⟩
  intro trouble task out hdoes
  obtain ⟨t', q', htracked⟩ := hdoes.tracked hwritten hsound
  refine ⟨htracked.records, ?_⟩
  intro k
  obtain ⟨t'', q'', hbetween, hpoint⟩ := htracked.points k
  have hgrown := (htracked.turn.known henrolled.known).2
  exact ⟨t'', q'', hbetween.readsAs hsound (hsound.turn htracked.turn) hpoint,
    hbetween.enrolled henrolled (henrolled.turn htracked.turn) hgrown⟩

/-- The office after Ann has been accepted. -/
def annAccepted : Office :=
  (annAsked.accept Storage.noTrouble "ann ").office

theorem accepted_enrolled_ann :
    ∃ log, Run log annAsked ∧
      (∃ event, Run (log ++ [event]) annAccepted) ∧
      annAccepted.queue.entries = [⟨"Ann", .accepted, some springDay⟩] ∧
      (∃ t q, ReadsAs annAccepted.records t q ∧ "Ann" ∈ annAccepted.tournament.names ∧
        "Ann" ∈ t.names) ∧
      ∀ k, ∃ t q,
        ReadsAs (annAsked.records.afterAll
          ((annAsked.accept Storage.noTrouble "ann ").writes.take k)) t q ∧
        Enrolled q t := by
  obtain ⟨log, hasked⟩ := annAsked_run
  have haccept : Does annAsked Storage.noTrouble (.accept "ann ") _ := .accept
  have haccepted : Run (log ++ [_]) annAccepted := hasked.step haccept
  have hqueue : annAccepted.queue.entries = [⟨"Ann", .accepted, some springDay⟩] := by
    decide +kernel
  have hann : ⟨"Ann", .accepted, some springDay⟩ ∈ annAccepted.queue.entries := by
    rw [hqueue]
    exact List.mem_singleton_self _
  obtain ⟨t, q, hreads, hmemory, hstored, -⟩ := (accepted_enrolled haccepted).1
  obtain ⟨-, hpoints⟩ := (accepted_enrolled hasked).2 haccept
  exact ⟨log, hasked, ⟨_, haccepted⟩, hqueue, ⟨t, q, hreads, hmemory _ hann rfl, hstored _ hann rfl⟩,
    hpoints⟩

end Office
end TournamentDesk
