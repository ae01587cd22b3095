import Mathlib.Data.List.Forall2
import TournamentDesk.Proofs.Office.Requests
import TournamentDesk.Proofs.Office.Spelling

/-!
# How a second spelling gets onto the roster

The queue tells names apart up to case and blanks at the ends, the roster by their very spelling. When an
office keeps in memory what it cannot save, the queue in memory and that of the record may have one person
wait under two spellings. If the player is enrolled under the one and the office is opened again before
the queue is saved, the other one waits, and the roster does not turn it away.

This is the only way. It takes a rejection, a request and an acceptance that could not be saved, an opening
and another acceptance, in this order and all of the same person.

* `acceptOnly_enrolled_twice`: two players with the same name up to case.
* `enrolled_twice_detour`: whenever there are two such players, all this has happened.
-/

namespace TournamentDesk

open Registration (Entrant Queue)
open Storage (Trouble)
open Swiss (Answer Tournament)
open Time (Instant)

namespace Office

/-! ## Events in order -/

/-- Events that are as described happened in this order. -/
def InOrder (steps : List (Event → Prop)) (log : List Event) : Prop :=
  List.SublistForall₂ (fun step event => step event) steps log

section Orders

variable {steps : List (Event → Prop)} {log : List Event}

theorem InOrder.later
    (h : InOrder steps log)
    (more : List Event) :
    InOrder steps (log ++ more) := by
  obtain ⟨events, hsteps, hsub⟩ := List.sublistForall₂_iff.1 h
  exact List.sublistForall₂_iff.2 ⟨events, hsteps, hsub.trans (List.sublist_append_left log more)⟩

theorem InOrder.snoc
    {step : Event → Prop}
    {event : Event}
    (h : InOrder steps log)
    (hstep : step event) :
    InOrder (steps ++ [step]) (log ++ [event]) := by
  obtain ⟨events, hsteps, hsub⟩ := List.sublistForall₂_iff.1 h
  have hlast : List.Forall₂ (fun (step : Event → Prop) event => step event) [step] [event] :=
    .cons hstep .nil
  exact List.sublistForall₂_iff.2
    ⟨events ++ [event], List.rel_append hsteps hlast, hsub.append (List.Sublist.refl _)⟩

theorem InOrder.take
    (h : InOrder steps log)
    (n : Nat) :
    InOrder (steps.take n) log := by
  obtain ⟨events, hsteps, hsub⟩ := List.sublistForall₂_iff.1 h
  exact List.sublistForall₂_iff.2
    ⟨events.take n, List.forall₂_take n hsteps, (List.take_sublist n events).trans hsub⟩

end Orders

/-- The entry with this very name was turned down, which could not be saved. -/
def UnsavedRejection (name : String) (event : Event) : Prop :=
  ∃ fault, event = ⟨.reject name, .error (.storage fault)⟩

/-- A request under a name could not be saved. -/
def UnsavedRequest (name : String) (event : Event) : Prop :=
  ∃ now fault, event = ⟨.submit now name, .error (.storage fault)⟩

/-- The entry with a name was accepted, which was saved in part at most. -/
def PartialAcceptance (name : String) (event : Event) : Prop :=
  ∃ asked stage cause, event = ⟨.accept asked, .error (.partialCommit name stage cause)⟩

/-- The office was opened again. -/
def Reopening (event : Event) : Prop :=
  ∃ policy, event = ⟨.reopen policy, .ok none⟩

/-- The entry with a name was accepted, whether that was saved or not. -/
def Acceptance (name : String) (event : Event) : Prop :=
  (∃ asked id, event = ⟨.accept asked, .ok (some id)⟩ ∧ Text.sameName name asked = true) ∨
    PartialAcceptance name event

/-- How a player gets onto the roster under a second spelling of the name. -/
def detour (first second : String) : List (Event → Prop) :=
  [UnsavedRejection second, UnsavedRequest first, PartialAcceptance first, Reopening,
    Acceptance second]

/-! ## Spellings -/

/-- Two spellings of a name are one, or the detour has been gone up to a point. -/
def Respelled (log : List Event) (legs : Nat) (first second : String) : Prop :=
  first = second ∨ InOrder ((detour first second).take legs) log

section Spellings

variable {log : List Event} {legs : Nat} {first second : String}

theorem Respelled.later
    (h : Respelled log legs first second)
    (more : List Event) :
    Respelled (log ++ more) legs first second :=
  h.imp_right fun hsteps => hsteps.later more

/-- Whoever has come farther has been there. -/
theorem Respelled.back
    {fewer : Nat}
    (h : Respelled log legs first second)
    (hfewer : fewer ≤ legs) :
    Respelled log fewer first second := by
  refine h.imp_right fun hsteps => ?_
  have htaken := hsteps.take fewer
  rwa [List.take_take, Nat.min_eq_left hfewer] at htaken

/-- One more leg of the detour. -/
theorem Respelled.next
    (h : Respelled log legs first second)
    {step : Event → Prop}
    (hleg : (detour first second)[legs]? = some step)
    {event : Event}
    (hstep : step event) :
    Respelled (log ++ [event]) (legs + 1) first second := by
  refine h.imp_right fun hsteps => ?_
  rw [List.take_add_one, hleg]
  exact hsteps.snoc hstep

end Spellings

/-- Whoever waits in a queue under the name of a player waits under the same spelling, or the detour has
been gone up to a point. -/
def SpelledBy (log : List Event) (legs : Nat) : Queue → List String → Prop :=
  Excused fun name e => Respelled log legs name e.name

theorem SpelledBy.later
    {log : List Event}
    {legs : Nat}
    {q : Queue}
    {names : List String}
    (h : SpelledBy log legs q names)
    (more : List Event) :
    SpelledBy (log ++ more) legs q names :=
  Excused.imp h fun _ _ hspelled => hspelled.later more

/-! ## The record of the queue and memory -/

/-- How those who wait in the record of the queue stand in memory. -/
structure Remembered (log : List Event) (storedQueue queue : Queue) : Prop where
  /-- They wait there, too, or were turned down. -/
  kept : ∀ (i : Nat) (e : Entrant), storedQueue.entries[i]? = some e → e.isPending = true →
    queue.entries[i]? = some e ∨ InOrder [UnsavedRejection e.name] log
  /-- They wait under the same spelling, or asked again. -/
  asked : ∀ e ∈ storedQueue.entries, e.isPending = true →
    ∀ e' ∈ queue.entries, e'.isPending = true → Text.sameName e'.name e.name = true →
      Respelled log 2 e'.name e.name

section Memory

variable {log : List Event} {storedQueue queue : Queue}

theorem Remembered.later
    (h : Remembered log storedQueue queue)
    (more : List Event) :
    Remembered (log ++ more) storedQueue queue := by
  constructor
  · intro i e he hpending
    exact (h.kept i e he hpending).imp_right fun hturned => hturned.later more
  · intro e he hpending e' he' hpending' hsame
    exact (h.asked e he hpending e' he' hpending' hsame).later more

/-- A queue that has been saved is remembered. -/
theorem remembered_self
    (log : List Event)
    (honce : queue.Unambiguous) :
    Remembered log queue queue := by
  constructor
  · intro i e he _
    exact .inl he
  · intro e he hpending e' he' hpending' hsame
    obtain ⟨i, hi⟩ := List.mem_iff_getElem?.1 he
    obtain ⟨j, hj⟩ := List.mem_iff_getElem?.1 he'
    obtain rfl := honce j i e' e hj hi hpending' hpending hsame
    rw [hj] at hi
    exact .inl (congrArg Entrant.name (Option.some.inj hi))

/-- Whoever asks under the name of an entry of the record, and does not wait in memory, has been turned
down. -/
theorem Remembered.push
    (h : Remembered log storedQueue queue)
    {name : String}
    (hfresh : ∀ e ∈ queue.entries, e.isPending = true → Text.sameName e.name name = false)
    (now : Instant)
    {event : Event}
    (hevent : UnsavedRequest name event) :
    Remembered (log ++ [event]) storedQueue (queue.push name now) := by
  constructor
  · intro i e he hpending
    rcases h.kept i e he hpending with hmemory | hturned
    · refine .inl ?_
      rw [Queue.push, List.getElem?_append_left (List.getElem?_eq_some_iff.1 hmemory).1]
      exact hmemory
    · exact .inr (hturned.later _)
  · intro e he hpending e' he' hpending' hsame
    rcases List.mem_append.1 he' with he' | he'
    · exact (h.asked e he hpending e' he' hpending' hsame).later _
    · rw [List.mem_singleton.1 he'] at hsame ⊢
      obtain ⟨i, hi⟩ := List.mem_iff_getElem?.1 he
      rcases h.kept i e hi hpending with hmemory | hturned
      · have hother := hfresh e (List.mem_of_getElem? hmemory) hpending
        rw [Text.sameName_iff] at hsame
        rw [(Text.sameName_iff _ _).2 hsame.symm] at hother
        cases hother
      · exact .inr (hturned.snoc hevent)

theorem Remembered.reject
    (h : Remembered log storedQueue queue)
    {i : Nat}
    {e : Entrant}
    (hfound : queue.entries[i]? = some e)
    {event : Event}
    (hevent : UnsavedRejection e.name event) :
    Remembered (log ++ [event]) storedQueue (queue.setStatus i .rejected) := by
  constructor
  · intro j other hj hpending
    rcases h.kept j other hj hpending with hmemory | hturned
    · by_cases hij : i = j
      · subst hij
        obtain rfl := Option.some.inj (hfound.symm.trans hmemory)
        have hnobody : InOrder [] log := .nil
        exact .inr (hnobody.snoc hevent)
      · refine .inl ?_
        rw [Queue.getElem?_setStatus, hmemory, Option.map_some, if_neg hij]
    · exact .inr (hturned.later _)
  · intro other hother hpending e' he' hpending' hsame
    obtain ⟨j, hj⟩ := List.mem_iff_getElem?.1 he'
    obtain ⟨-, hj⟩ := Queue.pending_of_setStatus (by decide) hj hpending'
    exact (h.asked other hother hpending e' (List.mem_of_getElem? hj) hpending' hsame).later _

end Memory

/-! ## Rosters -/

/-- Two names on a roster are different names, or the second one came over the detour. -/
def Apart (log : List Event) (first second : String) : Prop :=
  Text.sameName first second = true → InOrder (detour first second) log

/-- Books in which every second spelling of a name came over the detour, or is still on it. -/
structure Books.Spelled (b : Books) (log : List Event) : Prop where
  remembered : Remembered log b.storedQueue b.queue
  storedQueue : SpelledBy log 3 b.storedQueue b.tournament.names
  queue : SpelledBy log 4 b.queue b.tournament.names
  roster : b.tournament.names.Pairwise (Apart log)
  storedRoster : b.storedTournament.names.Pairwise (Apart log)

theorem pairwise_apart_later
    {log : List Event}
    {names : List String}
    (h : names.Pairwise (Apart log))
    (more : List Event) :
    names.Pairwise (Apart (log ++ more)) :=
  h.imp fun hapart hsame => (hapart hsame).later more

theorem Books.Spelled.later
    {b : Books}
    {log : List Event}
    (h : b.Spelled log)
    (more : List Event) :
    b.Spelled (log ++ more) :=
  ⟨h.remembered.later more, h.storedQueue.later more, h.queue.later more,
    pairwise_apart_later h.roster more, pairwise_apart_later h.storedRoster more⟩

/-- Books whose queue has been saved. -/
theorem spelled_of_saved
    {b : Books}
    {log : List Event}
    (hsaved : b.storedQueue = b.queue)
    (honce : b.queue.Unambiguous)
    (hqueue : SpelledBy log 4 b.queue b.tournament.names)
    (hroster : b.tournament.names.Pairwise (Apart log))
    (hstored : b.storedTournament.names.Pairwise (Apart log)) :
    b.Spelled log := by
  refine ⟨?_, ?_, hqueue, hroster, hstored⟩
  · rw [hsaved]
    exact remembered_self log honce
  · rw [hsaved]
    exact Excused.imp hqueue fun _ _ hspelled => hspelled.back (by decide)

theorem Settled.spelled
    {b b' : Books}
    {log : List Event}
    {task : Task}
    {queue : Queue}
    {result : Except Problem Answer}
    (h : b.Spelled log)
    (honce : queue.Unambiguous)
    (hqueue : SpelledBy log 4 queue b.tournament.names)
    (hkept : ∀ fault, Remembered (log ++ [⟨task, .error (.storage fault)⟩]) b.storedQueue queue)
    (hsettled : Settled b queue result b') :
    b'.Spelled (log ++ [⟨task, result⟩]) := by
  have hlater := h.later [⟨task, result⟩]
  have hqueue := hqueue.later [⟨task, result⟩]
  cases hsettled with
  | saved => exact spelled_of_saved rfl honce hqueue hlater.roster hlater.storedRoster
  | undone policy => exact hlater
  | kept policy =>
      exact ⟨hkept _, hlater.storedQueue, hqueue, hlater.roster, hlater.storedRoster⟩

theorem Committed.acceptance
    {b b' : Books}
    {name asked : String}
    {tournament : Tournament}
    {id : Swiss.PlayerId}
    {queue : Queue}
    {result : Except Problem Answer}
    (hnamed : Text.sameName name asked = true)
    (h : Committed b name tournament id queue result b') :
    Acceptance name ⟨.accept asked, result⟩ := by
  cases h with
  | saved => exact .inl ⟨asked, id, rfl, hnamed⟩
  | unsaved => exact .inr ⟨asked, .tournament, _, rfl⟩
  | halfSaved => exact .inr ⟨asked, .queue, _, rfl⟩

/-- A player who is added has a spelling that nobody has, and came over the detour if somebody has the
name. -/
theorem Books.Spelled.enrol
    {b : Books}
    {log : List Event}
    (h : b.Spelled log)
    {i : Nat}
    {e : Entrant}
    (hfound : b.queue.entries[i]? = some e)
    (hpending : e.status = .pending)
    {tournament : Tournament}
    {id : Swiss.PlayerId}
    (hadded : b.tournament.addPlayer e.name = .ok (tournament, id))
    {event : Event}
    (hevent : Acceptance e.name event) :
    tournament.names.Pairwise (Apart (log ++ [event])) := by
  rw [Swiss.names_of_addPlayer hadded, List.pairwise_append]
  refine ⟨pairwise_apart_later h.roster _, List.pairwise_singleton _ _, ?_⟩
  intro first hfirst second hsecond
  rw [List.mem_singleton.1 hsecond]
  intro hsame
  have hwaits := e.isPending_iff.2 hpending
  rcases h.queue e (List.mem_of_getElem? hfound) hwaits first hfirst hsame with hspelled | hsteps
  · obtain ⟨-, -, hnew, -⟩ := Swiss.addPlayer_eq_ok hadded
    obtain ⟨p, hp, hname⟩ := List.mem_map.1 hfirst
    exact absurd (hname.trans hspelled) (hnew p hp)
  · exact hsteps.snoc hevent

/-- Whoever was accepted in part is the first on the detour for those who wait in the record. -/
theorem Books.Spelled.storedEnrol
    {b : Books}
    {log : List Event}
    (h : b.Spelled log)
    {i : Nat}
    {e : Entrant}
    (hfound : b.queue.entries[i]? = some e)
    (hpending : e.status = .pending)
    {event : Event}
    (hevent : PartialAcceptance e.name event) :
    SpelledBy (log ++ [event]) 3 b.storedQueue (b.tournament.names ++ [e.name]) := by
  refine Excused.snoc (h.storedQueue.later _) ?_
  intro other hother hwaits hsame
  have hasked := h.remembered.asked other hother hwaits e (List.mem_of_getElem? hfound)
    (e.isPending_iff.2 hpending) hsame
  exact hasked.next rfl hevent

theorem Books.Spelled.turn
    {b b' : Books}
    {log : List Event}
    {task : Task}
    {result : Except Problem Answer}
    (hclear : b.Clear log)
    (h : b.Spelled log)
    (hturn : Turn b task result b') :
    b'.Spelled (log ++ [⟨task, result⟩]) := by
  have hlater := h.later [⟨task, result⟩]
  cases hturn with
  | refused untouched => exact hlater
  | @submitted now name result b' dated visible fresh free settled =>
      refine settled.spelled h (hclear.once.push fresh now) (h.queue.push (free_names free) now) ?_
      intro fault
      exact h.remembered.push fresh now ⟨now, fault, rfl⟩
  | @accepted name i e tournament id result b' found pending named added committed =>
      have hnames := Swiss.names_of_addPlayer added
      have hroster := h.enrol found pending added (committed.acceptance named)
      have hqueue := hlater.queue.enrol hclear.once found pending (.inl rfl)
      rw [← hnames] at hqueue
      have hstored : ∀ stage cause,
          SpelledBy (log ++ [⟨.accept name, .error (.partialCommit e.name stage cause)⟩]) 3
            b.storedQueue tournament.names := by
        intro stage cause
        rw [hnames]
        exact h.storedEnrol found pending ⟨name, stage, cause, rfl⟩
      cases committed with
      | saved =>
          have honce := hclear.once.setStatus i (s := .accepted) (by decide)
          have hdecided := hlater.queue.accept hclear.once found pending
          rw [← hnames] at hdecided
          exact spelled_of_saved rfl honce hdecided hroster hroster
      | unsaved =>
          exact ⟨hlater.remembered, hstored _ _, hqueue, hroster, hlater.storedRoster⟩
      | halfSaved => exact ⟨hlater.remembered, hstored _ _, hqueue, hroster, hroster⟩
  | @rejected name i e result b' found pending named settled =>
      have honce := hclear.once.setStatus i (s := .rejected) (by decide)
      refine settled.spelled h honce (h.queue.setStatus i (by decide)) ?_
      intro fault
      exact h.remembered.reject found ⟨fault, by rw [named]⟩
  | played fair nobody effect =>
      have hnames := effect.names_eq nobody
      have hroster := hnames ▸ hlater.roster
      exact ⟨hlater.remembered, hnames ▸ hlater.storedQueue, hnames ▸ hlater.queue, hroster, hroster⟩
  | playUnsaved fair nobody effect =>
      have hnames := effect.names_eq nobody
      exact ⟨hlater.remembered, hnames ▸ hlater.storedQueue, hnames ▸ hlater.queue,
        hnames ▸ hlater.roster, hlater.storedRoster⟩
  | @reopened policy tournament same storable =>
      have hnames : tournament.names = b.storedTournament.names := by
        rw [same.others]
        rfl
      have hreopened : Reopening ⟨.reopen policy, .ok none⟩ := ⟨policy, rfl⟩
      have hqueue : SpelledBy (log ++ [⟨.reopen policy, .ok none⟩]) 4 b.storedQueue
          b.tournament.names :=
        Excused.imp h.storedQueue fun _ _ hspelled => hspelled.next rfl hreopened
      have hqueue := hnames ▸ hqueue.mono hclear.known
      exact spelled_of_saved rfl hclear.storedOnce hqueue (hnames ▸ hlater.storedRoster)
        hlater.storedRoster

/-! ## Runs -/

theorem spelled_newBooks (policy : Policy) : (newBooks policy).Spelled [] :=
  spelled_of_saved rfl Queue.unambiguous_empty (excused_empty _) .nil .nil

theorem nodup_of_apart
    {log : List Event}
    {names : List String}
    (h : names.Pairwise (Apart log))
    (hnone : ∀ event ∈ log, ∀ name, ¬ UnsavedRejection name event) :
    Distinct names := by
  unfold Distinct
  rw [List.Nodup, List.pairwise_map]
  refine h.imp ?_
  intro first second hapart hsame
  obtain ⟨events, hsteps, hsub⟩ := List.sublistForall₂_iff.1 (hapart ((Text.sameName_iff _ _).2 hsame))
  cases hsteps with
  | cons hrejection _ => exact hnone _ (hsub.subset List.mem_cons_self) _ hrejection

/-- When two players on a roster have the same name up to case and blanks at the ends, the second one came
over the detour: the entry with the second spelling was turned down, which could not be saved, the first
spelling was asked for, which could not be saved, that entry was accepted, which was saved in part at most,
the office was opened again, and the entry with the second spelling was accepted. So while no rejection is
left unsaved, nobody is enrolled twice, whatever the policy. -/
theorem enrolled_twice_detour
    {log : List Event}
    {o : Office}
    (h : Run log o) :
    ∃ t q, ReadsAs o.records t q ∧
      ∀ u, u = o.tournament ∨ u = t →
        (u.players.Pairwise fun p r =>
          Text.normalForm p.name = Text.normalForm r.name → InOrder (detour p.name r.name) log) ∧
        ((∀ event ∈ log, ∀ name, ¬ UnsavedRejection name event) →
          (u.players.map fun p => Text.normalForm p.name).Nodup) := by
  obtain ⟨t, q, hwritten, hsound, -, hspelled⟩ :=
    h.clearInvariant (P := fun log b => b.Spelled log) spelled_newBooks
      fun _ _ _ _ _ hclear hb hturn => hb.turn hclear hturn
  refine ⟨t, q, hwritten.readsAs hsound.storedTournament hsound.storedQueue, ?_⟩
  have hplayers : ∀ u : Tournament, u.names.Pairwise (Apart log) →
      (u.players.Pairwise fun p r =>
        Text.normalForm p.name = Text.normalForm r.name → InOrder (detour p.name r.name) log) ∧
      ((∀ event ∈ log, ∀ name, ¬ UnsavedRejection name event) →
        (u.players.map fun p => Text.normalForm p.name).Nodup) := by
    intro u hu
    constructor
    · rw [Tournament.names, List.pairwise_map] at hu
      exact hu.imp fun hapart hsame => hapart ((Text.sameName_iff _ _).2 hsame)
    · intro hnone
      have hdistinct := nodup_of_apart hu hnone
      simpa [Distinct, Tournament.names, Function.comp_def] using hdistinct
  rintro u (rfl | rfl)
  · exact hplayers _ hspelled.roster
  · exact hplayers _ hspelled.storedRoster

/-! ## A player under two spellings -/

/-- The tournament with the second request accepted. -/
def annPlays : Tournament :=
  { Tournament.empty with lastId := 1, players := [⟨1, "Ann", false⟩] }

/-- The office after the second request has been accepted, which was saved in the tournament only. -/
def annEnrolled : Office :=
  (annAsksAgain.accept noQueueSaved "ann").office

/-- The office after it has been opened again, with the first request still waiting. -/
def annReopened : Office :=
  ⟨annPlays, annWaits.queue, .acceptOnly, annEnrolled.records⟩

/-- The office after the first request has been accepted. -/
def annTwice : Office :=
  (annReopened.accept Storage.noTrouble "ann").office

theorem annEnrolled_eq :
    annEnrolled =
      ⟨annPlays, annAsksAgain.queue.setStatus 1 .pending, annAsksAgain.policy,
        annAsksAgain.records.after ⟨.tournament, annPlays.toRecord, true⟩⟩ := by
  have hfind : annAsksAgain.queue.findPending "ann" = .ok ⟨1, "Ann"⟩ := rfl
  have hadded : annAsksAgain.tournament.addPlayer "Ann" = .ok (annPlays, 1) := rfl
  exact accept_halfSaved hfind hadded rfl rfl

theorem open?_annReopened :
    open? annEnrolled.records Storage.noTrouble .acceptOnly = .ok annReopened := by
  have hadded : Tournament.empty.addPlayer "Ann" = .ok (annPlays, 1) := rfl
  have hstorable := storable_addPlayer Swiss.Storable.empty hadded
  have hrange : annPlays.InRange := ⟨by decide, by decide⟩
  have hwritten : Written annEnrolled.records annPlays annWaits.queue := by
    rw [annEnrolled_eq]
    exact annAsksAgain_written.afterTournament annPlays
  obtain ⟨t, hread⟩ := hwritten.readable hstorable hrange
  obtain rfl := (hwritten.readTournament hstorable hread).1.eq_of_standings rfl
  exact open?_of_reads hread (hwritten.readQueue annWaits_fits) .acceptOnly

theorem annTwice_runUnder : ∃ log, RunUnder .acceptOnly log annTwice := by
  obtain ⟨log, hasked⟩ := annAsksAgain_runUnder
  have hfirst : Does annAsksAgain noQueueSaved (.accept "ann") _ := .accept
  have hsecond : Does annEnrolled Storage.noTrouble (.reopen .acceptOnly) _ :=
    .reopen open?_annReopened
  have hthird : Does annReopened Storage.noTrouble (.accept "ann") _ := .accept
  have henrolled : RunUnder .acceptOnly (log ++ [_]) annEnrolled :=
    hasked.step hfirst fun _ hother => by cases hother
  have hreopened : RunUnder .acceptOnly (log ++ [_] ++ [_]) annReopened :=
    henrolled.step hsecond fun _ hother => by cases hother; rfl
  exact ⟨_, hreopened.step hthird fun _ hother => by cases hother⟩

theorem annTwice_players :
    annTwice.tournament.players = [⟨1, "Ann", false⟩, ⟨2, "ann", false⟩] := by
  decide +kernel

/-- An office that keeps in memory what it cannot save may enroll a player twice. -/
theorem acceptOnly_enrolled_twice :
    ∃ log, RunUnder .acceptOnly log annTwice ∧
      annTwice.tournament.players = [⟨1, "Ann", false⟩, ⟨2, "ann", false⟩] ∧
      ¬ (annTwice.tournament.players.map fun p => Text.normalForm p.name).Nodup := by
  obtain ⟨log, hrun⟩ := annTwice_runUnder
  refine ⟨log, hrun, annTwice_players, ?_⟩
  rw [annTwice_players]
  decide +kernel

theorem enrolled_twice_detour_ann :
    ∃ log, Run log annTwice ∧
      annTwice.tournament.players = [⟨1, "Ann", false⟩, ⟨2, "ann", false⟩] ∧
      InOrder (detour "Ann" "ann") log := by
  obtain ⟨log, hrun⟩ := annTwice_runUnder
  obtain ⟨t, q, -, htwice⟩ := enrolled_twice_detour hrun.run
  obtain ⟨hpairs, -⟩ := htwice _ (.inl rfl)
  rw [annTwice_players, List.pairwise_cons] at hpairs
  refine ⟨log, hrun.run, annTwice_players, ?_⟩
  exact hpairs.1 ⟨2, "ann", false⟩ (List.mem_singleton_self _) (by decide +kernel)

end Office
end TournamentDesk
