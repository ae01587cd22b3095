import TournamentDesk.Proofs.Office.Rollback
import TournamentDesk.Proofs.Office.Waiting

/-!
# Nobody is enrolled twice

The roster turns away a name only if it has that very spelling, while the queue tells names apart up to
case and blanks at the ends. Under the uniform policy that is enough: whoever still waits under the name
of a player waits under the very spelling of that name, so that the roster turns the entry away.

* `addPlayer_eq_ok_iff`: the roster looks at the exact spelling only.
* `uniform_nobody_twice`: no two players have the same name up to case and blanks at the ends.
-/

namespace TournamentDesk

open Registration (Entrant Queue)
open Swiss (PlayerId Tournament)

namespace Office

/-- No two names are the same up to case and blanks at the ends. -/
def Distinct (names : List String) : Prop :=
  (names.map Text.normalForm).Nodup

theorem Distinct.snoc
    {names : List String}
    {name : String}
    (h : Distinct names)
    (hnew : ∀ other ∈ names, Text.sameName other name = false) :
    Distinct (names ++ [name]) := by
  unfold Distinct
  rw [List.map_append, List.nodup_append]
  refine ⟨h, List.nodup_singleton _, ?_⟩
  intro a ha b hb hab
  obtain ⟨other, hother, rfl⟩ := List.mem_map.1 ha
  rw [List.mem_singleton.1 hb] at hab
  have hfree := hnew other hother
  rw [(Text.sameName_iff other name).2 hab] at hfree
  cases hfree

/-- A waiting entry is spelled as the player of its name, if there is one. -/
def SpelledAlike : Queue → List String → Prop :=
  Excused fun name e => name = e.name

/-- Whoever is added to the roster has nobody's name there, up to case and blanks at the ends. -/
theorem SpelledAlike.free
    {q : Queue}
    {t t' : Tournament}
    {i : Nat}
    {e : Entrant}
    {id : PlayerId}
    (h : SpelledAlike q t.names)
    (hfound : q.entries[i]? = some e)
    (hpending : e.status = .pending)
    (hadded : t.addPlayer e.name = .ok (t', id)) :
    ∀ other ∈ t.names, Text.sameName other e.name = false := by
  intro other hother
  by_contra hsame
  rw [Bool.not_eq_false] at hsame
  obtain ⟨-, -, hnew, -⟩ := Swiss.addPlayer_eq_ok hadded
  have hspelled : other = e.name :=
    h e (List.mem_of_getElem? hfound) (e.isPending_iff.2 hpending) other hother hsame
  obtain ⟨p, hp, hname⟩ := List.mem_map.1 hother
  exact hnew p hp (hname.trans hspelled)

/-- Books in which nobody plays twice. Nobody waits twice either, whoever waits and plays does so under one
spelling, and the record of the queue is not behind. -/
structure Books.ToldApart (b : Books) : Prop where
  inStep : b.InStep
  known : b.storedTournament.names ⊆ b.tournament.names
  once : b.queue.Unambiguous
  spelled : SpelledAlike b.queue b.tournament.names
  distinct : Distinct b.tournament.names
  storedDistinct : Distinct b.storedTournament.names

theorem Settled.toldApart
    {b b' : Books}
    {queue : Queue}
    {result : Except Problem Swiss.Answer}
    (hpolicy : b.policy = .uniform)
    (h : b.ToldApart)
    (honce : queue.Unambiguous)
    (hspelled : SpelledAlike queue b.tournament.names)
    (hsettled : Settled b queue result b') :
    b'.ToldApart := by
  have hstep := hsettled.inStep h.inStep
  cases hsettled with
  | saved => exact ⟨hstep, h.known, honce, hspelled, h.distinct, h.storedDistinct⟩
  | undone policy => exact h
  | kept policy =>
      rw [policy] at hpolicy
      cases hpolicy

theorem Books.ToldApart.turn
    {b b' : Books}
    {task : Task}
    {result : Except Problem Swiss.Answer}
    (hpolicy : b.policy = .uniform)
    (h : b.ToldApart)
    (hturn : Turn b task result b') :
    b'.ToldApart := by
  obtain ⟨hknown, -⟩ := hturn.known h.known
  have hstep := h.inStep.turn hturn
  cases hturn with
  | refused untouched => exact h
  | @submitted now name result b' dated visible fresh free settled =>
      exact settled.toldApart hpolicy h (h.once.push fresh now) (h.spelled.push (free_names free) now)
  | @accepted name i e tournament id result b' found pending named added committed =>
      have hnames := Swiss.names_of_addPlayer added
      have hdistinct : Distinct tournament.names := by
        rw [hnames]
        exact h.distinct.snoc (h.spelled.free found pending added)
      have hwaiting : SpelledAlike b.queue tournament.names := by
        rw [hnames]
        exact h.spelled.enrol h.once found pending rfl
      cases committed with
      | saved =>
          have honce := h.once.setStatus i (s := .accepted) (by decide)
          have hdecided : SpelledAlike (b.queue.setStatus i .accepted) tournament.names := by
            rw [hnames]
            exact h.spelled.accept h.once found pending
          exact ⟨hstep, hknown, honce, hdecided, hdistinct, hdistinct⟩
      | unsaved => exact ⟨hstep, hknown, h.once, hwaiting, hdistinct, h.storedDistinct⟩
      | halfSaved => exact ⟨hstep, hknown, h.once, hwaiting, hdistinct, hdistinct⟩
  | @rejected name i e result b' found pending named settled =>
      have honce := h.once.setStatus i (s := .rejected) (by decide)
      exact settled.toldApart hpolicy h honce (h.spelled.setStatus i (by decide))
  | played fair nobody effect =>
      have hspelled := h.spelled
      have hdistinct := h.distinct
      rw [← effect.names_eq nobody] at hspelled hdistinct
      exact ⟨hstep, hknown, h.once, hspelled, hdistinct, hdistinct⟩
  | playUnsaved fair nobody effect =>
      have hspelled := h.spelled
      have hdistinct := h.distinct
      rw [← effect.names_eq nobody] at hspelled hdistinct
      exact ⟨hstep, hknown, h.once, hspelled, hdistinct, h.storedDistinct⟩
  | @reopened policy tournament same storable =>
      have hnames : tournament.names = b.storedTournament.names := by
        rw [same.others]
        rfl
      have hsame := h.inStep hpolicy
      have hspelled := h.spelled.mono h.known
      rw [← hsame, ← hnames] at hspelled
      refine ⟨hstep, hknown, ?_, hspelled, ?_, h.storedDistinct⟩
      · rw [hsame]
        exact h.once
      · rw [hnames]
        exact h.storedDistinct

theorem RunUnder.toldApart
    {log : List Event}
    {o : Office}
    (h : RunUnder .uniform log o) :
    ∃ t q, Written o.records t q ∧ (o.books t q).Sound ∧ (o.books t q).ToldApart := by
  refine h.invariant (P := Books.ToldApart) ?_ ?_
  · exact ⟨fun _ => rfl, List.Subset.refl _, Queue.unambiguous_empty, excused_empty _, List.nodup_nil,
      List.nodup_nil⟩
  · intro b task result b' hpolicy hb hturn
    exact hb.turn hpolicy hturn

/-- A roster takes any name that is not blank, as long as the tournament is not over, and turns away only
the spellings it has. -/
theorem addPlayer_eq_ok_iff
    (t : Tournament)
    (name : String) :
    (∃ r, t.addPlayer name = .ok r) ↔
      Text.isBlank name = false ∧ t.phase ≠ .completed ∧ ∀ p ∈ t.players, p.name ≠ name := by
  constructor
  · rintro ⟨r, hr⟩
    obtain ⟨hvisible, hphase, hnew, -⟩ := Swiss.addPlayer_eq_ok hr
    exact ⟨hvisible, hphase, hnew⟩
  · rintro ⟨hvisible, hphase, hnew⟩
    rw [Tournament.addPlayer_eq]
    rw [if_neg (by simp [hvisible]), if_neg hphase, if_neg (by simpa using hnew)]
    exact ⟨_, rfl⟩

/-- Nobody is enrolled twice under the uniform policy: neither the roster in memory nor that of the record
has two names that are the same up to case and blanks at the ends, although the roster itself turns away
only the spellings it has. -/
theorem uniform_nobody_twice
    {log : List Event}
    {o : Office}
    (h : RunUnder .uniform log o) :
    (o.tournament.players.map fun p => Text.normalForm p.name).Nodup ∧
      (∃ t q, ReadsAs o.records t q ∧ (t.players.map fun p => Text.normalForm p.name).Nodup) ∧
      ∀ (t : Tournament) (name : String), (∃ r, t.addPlayer name = .ok r) ↔
        Text.isBlank name = false ∧ t.phase ≠ .completed ∧ ∀ p ∈ t.players, p.name ≠ name := by
  obtain ⟨t, q, hwritten, hsound, hapart⟩ := h.toldApart
  have hplayers : ∀ u : Tournament, Distinct u.names →
      (u.players.map fun p => Text.normalForm p.name).Nodup := by
    intro u hu
    simpa [Distinct, Tournament.names, Function.comp_def] using hu
  refine ⟨hplayers _ hapart.distinct, ⟨t, q, ?_, hplayers _ hapart.storedDistinct⟩,
    addPlayer_eq_ok_iff⟩
  exact hwritten.readsAs hsound.storedTournament hsound.storedQueue

/-- The office after Ann has been accepted in memory only and then once more. -/
def annAcceptedAgain : Office :=
  (annHalfAccepted.accept Storage.noTrouble "ANN").office

/-- The office after Bob has asked to play, too. -/
def bobAsked : Office :=
  (annAcceptedAgain.submit Storage.noTrouble springDay "Bob").office

/-- The office after Bob has been accepted. -/
def bobAccepted : Office :=
  (bobAsked.accept Storage.noTrouble "bob").office

theorem uniform_nobody_twice_bob :
    ∃ log, RunUnder .uniform log bobAccepted ∧
      (annAsked.accept noTournamentSaved "ann ").result =
        .error (.partialCommit "Ann" .tournament (.storage (.unavailable "no space"))) ∧
      (annHalfAccepted.accept Storage.noTrouble "ANN").result =
        .error (.tournament (.duplicatePlayer "Ann")) ∧
      bobAccepted.queue.pendingNames = ["Ann"] ∧
      bobAccepted.tournament.players = [⟨1, "Ann", false⟩, ⟨2, "Bob", false⟩] ∧
      (bobAccepted.tournament.players.map fun p => Text.normalForm p.name).Nodup := by
  obtain ⟨log, hasked⟩ := annAsked_runUnder
  have hfirst : Does annAsked noTournamentSaved (.accept "ann ") _ := .accept
  have hsecond : Does annHalfAccepted Storage.noTrouble (.accept "ANN") _ := .accept
  have hthird : Does annAcceptedAgain Storage.noTrouble (.submit springDay "Bob") _ :=
    .submit (by decide)
  have hfourth : Does bobAsked Storage.noTrouble (.accept "bob") _ := .accept
  have hhalf : RunUnder .uniform (log ++ [_]) annHalfAccepted :=
    hasked.step hfirst fun _ hother => by cases hother
  have hagain : RunUnder .uniform (log ++ [_] ++ [_]) annAcceptedAgain :=
    hhalf.step hsecond fun _ hother => by cases hother
  have hbob : RunUnder .uniform (log ++ [_] ++ [_] ++ [_]) bobAsked :=
    hagain.step hthird fun _ hother => by cases hother
  have hboth : RunUnder .uniform (log ++ [_] ++ [_] ++ [_] ++ [_]) bobAccepted :=
    hbob.step hfourth fun _ hother => by cases hother
  refine ⟨_, hboth, ?_, ?_, ?_, ?_, (uniform_nobody_twice hboth).1⟩ <;> decide +kernel

end Office
end TournamentDesk
