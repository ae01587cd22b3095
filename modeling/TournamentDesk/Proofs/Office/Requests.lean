import TournamentDesk.Proofs.Office.Rollback
import TournamentDesk.Proofs.Office.Waiting

/-!
# One request a person

The queue looks for a request under the same name only when it takes one in. Entries are decided, restored
and taken back without another look, and opening the office again replaces the queue by an older one. None
of this lets anybody wait twice, in memory or in the record, and nobody waits without a name. So looking up
a name leaves no choice.

* `Queue.Orderly`: nobody waits twice, and everybody has a name.
* `pending_once`: both queues are orderly, between tasks and between writes.
-/

namespace TournamentDesk

open Registration (Queue Status)
open Storage (Records Trouble)
open Swiss (Answer Tournament)
open Time (Instant)

/-- Nobody waits twice in a queue, up to case and blanks at the ends of the name, and every entry has a
name. -/
structure Registration.Queue.Orderly (q : Queue) : Prop where
  once : q.Unambiguous
  named : ∀ e ∈ q.entries, Text.isBlank e.name = false

namespace Office

/-! ## Everybody has a name -/

/-- Every entry of a queue has a name. -/
def Named (q : Queue) : Prop :=
  ∀ e ∈ q.entries, Text.isBlank e.name = false

theorem Named.push
    {q : Queue}
    {name : String}
    (h : Named q)
    (hvisible : Text.isBlank name = false)
    (now : Instant) :
    Named (q.push name now) :=
  Queue.forall_push h hvisible

theorem Named.setStatus
    {q : Queue}
    (h : Named q)
    (i : Nat)
    (s : Status) :
    Named (q.setStatus i s) :=
  Queue.forall_setStatus h fun e he => h e (List.mem_of_getElem? he)

/-- Every entry in memory and in the record has a name. -/
structure Books.Named (b : Books) : Prop where
  queue : Office.Named b.queue
  storedQueue : Office.Named b.storedQueue

theorem Settled.named
    {b b' : Books}
    {queue : Queue}
    {result : Except Problem Answer}
    (h : b.Named)
    (hqueue : Named queue)
    (hsettled : Settled b queue result b') :
    b'.Named := by
  cases hsettled with
  | saved => exact ⟨hqueue, hqueue⟩
  | undone policy => exact h
  | kept policy => exact ⟨hqueue, h.storedQueue⟩

theorem Books.Named.turn
    {b b' : Books}
    {task : Task}
    {result : Except Problem Answer}
    (h : b.Named)
    (hturn : Turn b task result b') :
    b'.Named := by
  cases hturn with
  | refused untouched => exact h
  | submitted dated visible fresh free settled => exact settled.named h (h.queue.push visible _)
  | @accepted name i e tournament id result b' found pending named added committed =>
      have hqueue := h.queue.setStatus i .accepted
      cases committed with
      | saved => exact ⟨hqueue, hqueue⟩
      | unsaved => exact ⟨h.queue, h.storedQueue⟩
      | halfSaved => exact ⟨h.queue, h.storedQueue⟩
  | rejected found pending named settled => exact settled.named h (h.queue.setStatus _ _)
  | played fair nobody effect => exact ⟨h.queue, h.storedQueue⟩
  | playUnsaved fair nobody effect => exact ⟨h.queue, h.storedQueue⟩
  | reopened same storable => exact ⟨h.storedQueue, h.storedQueue⟩

theorem named_newBooks (policy : Policy) : (newBooks policy).Named := by
  constructor <;> intro e he <;> cases he

/-! ## Nobody waits twice -/

/-- The queues in memory and of the record are orderly. -/
structure Books.Orderly (b : Books) : Prop where
  queue : b.queue.Orderly
  storedQueue : b.storedQueue.Orderly

theorem Books.Clear.orderly
    {b : Books}
    {log : List Event}
    (h : b.Clear log)
    (hnamed : b.Named) :
    b.Orderly :=
  ⟨⟨h.once, hnamed.queue⟩, ⟨h.storedOnce, hnamed.storedQueue⟩⟩

theorem Run.orderly
    {log : List Event}
    {o : Office}
    (h : Run log o) :
    ∃ t q, Written o.records t q ∧ (o.books t q).Sound ∧ (o.books t q).Orderly := by
  obtain ⟨t, q, hwritten, hsound, hclear, hnamed⟩ :=
    h.clearInvariant (P := fun _ b => b.Named) (fun _ => named_newBooks _)
      fun _ _ _ _ _ _ hb hturn => hb.turn hturn
  exact ⟨t, q, hwritten, hsound, hclear.orderly hnamed⟩

theorem Between.orderly
    {b b' : Books}
    (h : b.Orderly)
    (h' : b'.Orderly)
    {t : Tournament}
    {q : Queue}
    (hbetween : Between b b' t q) :
    q.Orderly := by
  cases hbetween with
  | before => exact h.storedQueue
  | half => exact h.storedQueue
  | after => exact h'.storedQueue

/-- Nobody has two requests that wait, and nobody's request is without a name: in memory and in the
record, between tasks and between the writes of a task. So whoever waits is found under any spelling of
the name, and nobody else is. -/
theorem pending_once
    {log : List Event}
    {o : Office}
    (h : Run log o) :
    (∃ t q, ReadsAs o.records t q ∧
      ∀ queue, queue = o.queue ∨ queue = q →
        queue.Orderly ∧
        ∀ name found, queue.findPending name = .ok found ↔
          ∃ e, queue.entries[found.position]? = some e ∧ e.isPending = true ∧
            Text.normalForm e.name = Text.normalForm name ∧ e.name = found.name) ∧
    ∀ {trouble : Trouble} {task : Task} {out : Outcome Answer}, Does o trouble task out →
      ∀ k, ∃ t q, ReadsAs (o.records.afterAll (out.writes.take k)) t q ∧ q.Orderly := by
  obtain ⟨t, q, hwritten, hsound, hclear, hnamed⟩ :=
    h.clearInvariant (P := fun _ b => b.Named) (fun _ => named_newBooks _)
      fun _ _ _ _ _ _ hb hturn => hb.turn hturn
  have horderly := hclear.orderly hnamed
  constructor
  · refine ⟨t, q, hwritten.readsAs hsound.storedTournament hsound.storedQueue, ?_⟩
    have hfound : ∀ queue : Queue, queue.Orderly → ∀ name found,
        queue.findPending name = .ok found ↔
          ∃ e, queue.entries[found.position]? = some e ∧ e.isPending = true ∧
            Text.normalForm e.name = Text.normalForm name ∧ e.name = found.name :=
      fun queue hqueue => Queue.Unambiguous.findPending_eq_ok_iff hqueue.once
    rintro queue (rfl | rfl)
    · exact ⟨horderly.queue, hfound _ horderly.queue⟩
    · exact ⟨horderly.storedQueue, hfound _ horderly.storedQueue⟩
  · intro trouble task out hdoes k
    obtain ⟨t', q', htracked⟩ := hdoes.tracked hwritten hsound
    obtain ⟨t'', q'', hbetween, hpoint⟩ := htracked.points k
    have hturn := htracked.turn
    have horderly' := (hclear.turn hturn).orderly (hnamed.turn hturn)
    exact ⟨t'', q'', hbetween.readsAs hsound (hsound.turn hturn) hpoint,
      hbetween.orderly horderly horderly'⟩

/-! ## A request that is made twice -/

/-- An office that keeps in memory what it cannot save, opened for the first time. -/
def keepingOffice : Office :=
  { newOffice with policy := .acceptOnly }

/-- The office after a request to play as "ann". -/
def annWaits : Office :=
  (keepingOffice.submit Storage.noTrouble springDay "ann").office

/-- The office after that request has been turned down, which could not be saved. -/
def annTurnedDown : Office :=
  (annWaits.reject noQueueSaved "ann").office

/-- The office after a request to play as "Ann", which could not be saved either. -/
def annAsksAgain : Office :=
  (annTurnedDown.submit noQueueSaved springDay "Ann").office

theorem annAsksAgain_runUnder : ∃ log, RunUnder .acceptOnly log annAsksAgain := by
  have hopen : open? Records.empty Storage.noTrouble .acceptOnly = .ok keepingOffice := rfl
  have hfirst : Does keepingOffice Storage.noTrouble (.submit springDay "ann") _ :=
    .submit (by decide)
  have hsecond : Does annWaits noQueueSaved (.reject "ann") _ := .reject
  have hthird : Does annTurnedDown noQueueSaved (.submit springDay "Ann") _ := .submit (by decide)
  have hwaits : RunUnder .acceptOnly ([] ++ [_]) annWaits :=
    (RunUnder.opened hopen).step hfirst fun _ hother => by cases hother
  have hturned : RunUnder .acceptOnly ([] ++ [_] ++ [_]) annTurnedDown :=
    hwaits.step hsecond fun _ hother => by cases hother
  exact ⟨_, hturned.step hthird fun _ hother => by cases hother⟩

theorem annAsksAgain_written : Written annAsksAgain.records Tournament.empty annWaits.queue :=
  ⟨.inl ⟨rfl, rfl⟩, .inr rfl⟩

theorem annWaits_fits : ∀ e ∈ annWaits.queue.entries, e.Fits :=
  fits_push (q := Queue.empty) (by simp [Queue.empty]) (by decide) "ann"

/-- The request waits as "ann" in the record and as "Ann" in memory, and nowhere twice. -/
theorem pending_once_ann :
    ∃ log, Run log annAsksAgain ∧
      annAsksAgain.queue.entries =
        [⟨"ann", .rejected, some springDay⟩, ⟨"Ann", .pending, some springDay⟩] ∧
      readQueue annAsksAgain.records.queue = .ok ⟨[⟨"ann", .pending, some springDay⟩]⟩ ∧
      annAsksAgain.queue.findPending " ANN" = .ok ⟨1, "Ann"⟩ ∧
      annAsksAgain.queue.Orderly := by
  obtain ⟨log, hrun⟩ := annAsksAgain_runUnder
  have hentries : annAsksAgain.queue.entries =
      [⟨"ann", .rejected, some springDay⟩, ⟨"Ann", .pending, some springDay⟩] := by
    decide +kernel
  obtain ⟨⟨t, q, hreads, hqueues⟩, -⟩ := pending_once hrun.run
  obtain ⟨horderly, hfound⟩ := hqueues _ (.inl rfl)
  refine ⟨log, hrun.run, hentries, annAsksAgain_written.readQueue annWaits_fits, (hfound _ _).2 ?_,
    horderly⟩
  exact ⟨⟨"Ann", .pending, some springDay⟩, by rw [hentries]; rfl, rfl, by decide +kernel, rfl⟩

end Office
end TournamentDesk
