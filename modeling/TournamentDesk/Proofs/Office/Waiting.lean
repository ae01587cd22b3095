import TournamentDesk.Proofs.Office.Runs

/-!
# Nobody waits and plays

A request is taken in only under a name that nobody plays under, and whoever is accepted no longer waits.
Only an acceptance that could not be saved leaves an entry waiting whose player is on the roster, and it
says so. Names are compared up to case and blanks at the ends throughout.

* `waiting_player_reported`: whoever waits and plays was reported as accepted in part.
-/

namespace TournamentDesk

open Registration (Entrant Queue Status)
open Storage (Trouble)
open Swiss (Answer Tournament)

namespace Office

/-! ## Waiting under the name of a player -/

/-- Whoever waits in a queue under the name of a player has an excuse. -/
def Excused (excuse : String → Entrant → Prop) (q : Queue) (names : List String) : Prop :=
  ∀ e ∈ q.entries, e.isPending = true → ∀ name ∈ names, Text.sameName name e.name = true →
    excuse name e

section Excuses

variable {excuse : String → Entrant → Prop} {q : Queue} {names : List String}

theorem excused_empty (names : List String) : Excused excuse Queue.empty names := by
  intro e he
  cases he

theorem Excused.mono
    {fewer : List String}
    (h : Excused excuse q names)
    (hsub : fewer ⊆ names) :
    Excused excuse q fewer :=
  fun e he hpending name hname hsame => h e he hpending name (hsub hname) hsame

theorem Excused.imp
    {other : String → Entrant → Prop}
    (h : Excused excuse q names)
    (himp : ∀ name e, excuse name e → other name e) :
    Excused other q names :=
  fun e he hpending name hname hsame => himp name e (h e he hpending name hname hsame)

theorem Excused.push
    {name : String}
    (h : Excused excuse q names)
    (hfree : ∀ other ∈ names, Text.sameName other name = false)
    (now : Time.Instant) :
    Excused excuse (q.push name now) names := by
  refine Queue.forall_push h ?_
  intro _ other hother hsame
  rw [hfree other hother] at hsame
  cases hsame

theorem Excused.setStatus
    {s : Status}
    (h : Excused excuse q names)
    (i : Nat)
    (hs : s ≠ .pending) :
    Excused excuse (q.setStatus i s) names := by
  intro e he hpending
  obtain ⟨j, hj⟩ := List.mem_iff_getElem?.1 he
  obtain ⟨-, hj⟩ := Queue.pending_of_setStatus hs hj hpending
  exact h e (List.mem_of_getElem? hj) hpending

/-- A name more on the roster is excused, or nobody waits under it. -/
theorem Excused.snoc
    {name : String}
    (h : Excused excuse q names)
    (hname : ∀ e ∈ q.entries, e.isPending = true → Text.sameName name e.name = true →
      excuse name e) :
    Excused excuse q (names ++ [name]) := by
  intro e he hpending other hother hsame
  rcases List.mem_append.1 hother with hother | hother
  · exact h e he hpending other hother hsame
  · rw [List.mem_singleton.1 hother] at hsame ⊢
    exact hname e he hpending hsame

end Excuses

theorem free_names
    {t : Tournament}
    {name : String}
    (h : ∀ p ∈ t.players, Text.sameName p.name name = false) :
    ∀ other ∈ t.names, Text.sameName other name = false := by
  intro other hother
  obtain ⟨p, hp, rfl⟩ := List.mem_map.1 hother
  exact h p hp

/-- Nobody else waits under the name of an entry that waits. -/
theorem not_waiting_of_accepted
    {q : Queue}
    (h : q.Unambiguous)
    {i : Nat}
    {e : Entrant}
    (hfound : q.entries[i]? = some e)
    (hpending : e.status = .pending) :
    ∀ e' ∈ (q.setStatus i .accepted).entries, e'.isPending = true →
      Text.sameName e.name e'.name = false := by
  intro e' he' hpending'
  obtain ⟨j, hj⟩ := List.mem_iff_getElem?.1 he'
  obtain ⟨hij, hj⟩ := Queue.pending_of_setStatus (by decide) hj hpending'
  by_contra hsame
  rw [Bool.not_eq_false] at hsame
  exact hij (h i j e e' hfound hj (e.isPending_iff.2 hpending) hpending' hsame)

/-- A new player whose entry still waits is excused if that entry is. -/
theorem Excused.enrol
    {excuse : String → Entrant → Prop}
    {q : Queue}
    {names : List String}
    {i : Nat}
    {e : Entrant}
    (h : Excused excuse q names)
    (honce : q.Unambiguous)
    (hfound : q.entries[i]? = some e)
    (hpending : e.status = .pending)
    (hexcused : excuse e.name e) :
    Excused excuse q (names ++ [e.name]) := by
  refine h.snoc ?_
  intro e' he' hpending' hsame
  obtain ⟨j, hj⟩ := List.mem_iff_getElem?.1 he'
  -- nobody else waits under the name, so this is the entry itself
  obtain rfl : i = j :=
    honce i j e e' hfound hj (e.isPending_iff.2 hpending) hpending' hsame
  rw [hfound] at hj
  cases hj
  exact hexcused

/-- An acceptance leaves nobody waiting under the name of the new player. -/
theorem Excused.accept
    {excuse : String → Entrant → Prop}
    {q : Queue}
    {names : List String}
    {i : Nat}
    {e : Entrant}
    (h : Excused excuse q names)
    (honce : q.Unambiguous)
    (hfound : q.entries[i]? = some e)
    (hpending : e.status = .pending) :
    Excused excuse (q.setStatus i .accepted) (names ++ [e.name]) := by
  refine (h.setStatus i (by decide)).snoc ?_
  intro e' he' hpending' hsame
  rw [not_waiting_of_accepted honce hfound hpending e' he' hpending'] at hsame
  cases hsame

/-! ## Reports -/

/-- An acceptance of an entry with a name was reported as done in part. -/
def Reported (log : List Event) (name : String) : Prop :=
  ∃ asked entry stage cause,
    ⟨.accept asked, .error (.partialCommit entry stage cause)⟩ ∈ log ∧
      Text.sameName entry name = true

theorem Reported.append
    {log : List Event}
    {name : String}
    (h : Reported log name)
    (more : List Event) :
    Reported (log ++ more) name := by
  obtain ⟨asked, entry, stage, cause, hmem, hsame⟩ := h
  exact ⟨asked, entry, stage, cause, List.mem_append_left _ hmem, hsame⟩

/-- Whoever waits in a queue under the name of a player was reported. -/
def Clear (log : List Event) : Queue → List String → Prop :=
  Excused fun _ e => Reported log e.name

theorem Clear.append
    {log : List Event}
    {q : Queue}
    {names : List String}
    (h : Clear log q names)
    (more : List Event) :
    Clear (log ++ more) q names :=
  fun e he hpending name hname hsame => (h e he hpending name hname hsame).append more

/-- Nobody waits twice, and whoever waits and plays was reported. -/
structure Books.Clear (b : Books) (log : List Event) : Prop where
  known : b.storedTournament.names ⊆ b.tournament.names
  once : b.queue.Unambiguous
  storedOnce : b.storedQueue.Unambiguous
  queue : Office.Clear log b.queue b.tournament.names
  storedQueue : Office.Clear log b.storedQueue b.tournament.names

theorem Books.Clear.append
    {b : Books}
    {log : List Event}
    (h : b.Clear log)
    (more : List Event) :
    b.Clear (log ++ more) :=
  ⟨h.known, h.once, h.storedOnce, h.queue.append more, h.storedQueue.append more⟩

theorem Settled.clear
    {b b' : Books}
    {log : List Event}
    {queue : Queue}
    {result : Except Problem Answer}
    (h : b.Clear log)
    (honce : queue.Unambiguous)
    (hqueue : Clear log queue b.tournament.names)
    (hsettled : Settled b queue result b') :
    b'.Clear log := by
  cases hsettled with
  | saved => exact ⟨h.known, honce, honce, hqueue, hqueue⟩
  | undone policy => exact h
  | kept policy => exact ⟨h.known, honce, h.storedOnce, hqueue, h.storedQueue⟩

theorem reported_last
    (log : List Event)
    (asked : String)
    {entry name : String}
    (hsame : Text.sameName entry name = true)
    (stage : Stage)
    (cause : Problem) :
    Reported (log ++ [⟨.accept asked, .error (.partialCommit entry stage cause)⟩]) name :=
  ⟨asked, entry, stage, cause, List.mem_append_right _ (List.mem_singleton_self _), hsame⟩

theorem Books.Clear.turn
    {b b' : Books}
    {log : List Event}
    {task : Task}
    {result : Except Problem Answer}
    (h : b.Clear log)
    (hturn : Turn b task result b') :
    b'.Clear (log ++ [⟨task, result⟩]) := by
  obtain ⟨hknown, -⟩ := hturn.known h.known
  cases hturn with
  | refused untouched => exact h.append _
  | @submitted now name result b' dated visible fresh free settled =>
      have hqueue := h.queue.push (free_names free) now
      exact (settled.clear h (h.once.push fresh now) hqueue).append _
  | @accepted name i e tournament id result b' found pending named added committed =>
      have hnames := Swiss.names_of_addPlayer added
      -- an acceptance that is not saved reports its entry, and no other entry is in need of a report
      have hreported : ∀ {q : Queue} (stage : Stage) (cause : Problem),
          Office.Clear log q b.tournament.names →
            Office.Clear (log ++ [⟨.accept name, .error (.partialCommit e.name stage cause)⟩]) q
              tournament.names := by
        intro q stage cause hq
        rw [hnames]
        exact (hq.append _).snoc fun _ _ _ hsame => reported_last log name hsame stage cause
      cases committed with
      | saved =>
          have honce := h.once.setStatus i (s := .accepted) (by decide)
          have hqueue : Office.Clear log (b.queue.setStatus i .accepted) tournament.names := by
            rw [hnames]
            exact h.queue.accept h.once found pending
          refine Books.Clear.append ?_ _
          exact ⟨hknown, honce, honce, hqueue, hqueue⟩
      | unsaved =>
          exact ⟨hknown, h.once, h.storedOnce, hreported _ _ h.queue, hreported _ _ h.storedQueue⟩
      | halfSaved =>
          exact ⟨hknown, h.once, h.storedOnce, hreported _ _ h.queue, hreported _ _ h.storedQueue⟩
  | @rejected name i e result b' found pending named settled =>
      have honce := h.once.setStatus i (s := .rejected) (by decide)
      exact (settled.clear h honce (h.queue.setStatus i (by decide))).append _
  | played fair nobody effect =>
      have hqueue := h.queue
      have hstored := h.storedQueue
      rw [← effect.names_eq nobody] at hqueue hstored
      exact Books.Clear.append ⟨hknown, h.once, h.storedOnce, hqueue, hstored⟩ _
  | playUnsaved fair nobody effect =>
      have hqueue := h.queue
      have hstored := h.storedQueue
      rw [← effect.names_eq nobody] at hqueue hstored
      refine Books.Clear.append ?_ _
      exact ⟨hknown, h.once, h.storedOnce, hqueue, hstored⟩
  | @reopened policy tournament same storable =>
      have hqueue : Office.Clear log b.storedQueue tournament.names := by
        rw [same.others]
        exact h.storedQueue.mono h.known
      refine Books.Clear.append ?_ _
      exact ⟨hknown, h.storedOnce, h.storedOnce, hqueue, hqueue⟩

theorem clear_newBooks (policy : Policy) : (newBooks policy).Clear [] :=
  ⟨List.Subset.refl _, Queue.unambiguous_empty, Queue.unambiguous_empty, excused_empty _,
    excused_empty _⟩

/-- What turns keep of clear books holds in every run. -/
theorem Run.clearInvariant
    {P : List Event → Books → Prop}
    (hempty : ∀ policy, P [] (newBooks policy))
    (hturn : ∀ log b task result b', b.Clear log → P log b → Turn b task result b' →
      P (log ++ [⟨task, result⟩]) b')
    {log : List Event}
    {o : Office}
    (h : Run log o) :
    ∃ t q, Written o.records t q ∧ (o.books t q).Sound ∧ (o.books t q).Clear log ∧
      P log (o.books t q) := by
  refine h.invariant (P := fun log b => b.Clear log ∧ P log b) ?_ ?_
  · intro policy
    exact ⟨clear_newBooks policy, hempty policy⟩
  · intro log b task result b' hb hturned
    exact ⟨hb.1.turn hturned, hturn log b task result b' hb.1 hb.2 hturned⟩

theorem Run.clear
    {log : List Event}
    {o : Office}
    (h : Run log o) :
    ∃ t q, Written o.records t q ∧ (o.books t q).Sound ∧ (o.books t q).Clear log := by
  obtain ⟨t, q, hwritten, hsound, hclear, -⟩ :=
    h.clearInvariant (P := fun _ _ => True) (fun _ => trivial) fun _ _ _ _ _ _ _ _ => trivial
  exact ⟨t, q, hwritten, hsound, hclear⟩

/-- Nobody waits and plays, in memory or in the records, unless an acceptance was reported as done in
part. Without such a report the names of those who wait and of those who play are apart. -/
theorem waiting_player_reported
    {log : List Event}
    {o : Office}
    (h : Run log o) :
    ∃ t q, ReadsAs o.records t q ∧
      (∀ e, e ∈ o.queue.entries ∨ e ∈ q.entries → e.isPending = true →
        ∀ p, p ∈ o.tournament.players ∨ p ∈ t.players → Text.sameName p.name e.name = true →
          ∃ asked entry stage cause,
            ⟨.accept asked, .error (.partialCommit entry stage cause)⟩ ∈ log ∧
              Text.sameName entry e.name = true) ∧
      ((∀ event ∈ log, ∀ entry stage cause,
          event.result ≠ .error (.partialCommit entry stage cause)) →
        ∀ e, e ∈ o.queue.entries ∨ e ∈ q.entries → e.isPending = true →
          ∀ p, p ∈ o.tournament.players ∨ p ∈ t.players → Text.sameName p.name e.name = false) := by
  obtain ⟨t, q, hwritten, hsound, hclear⟩ := h.clear
  have hreported : ∀ e, e ∈ o.queue.entries ∨ e ∈ q.entries → e.isPending = true →
      ∀ p, p ∈ o.tournament.players ∨ p ∈ t.players → Text.sameName p.name e.name = true →
        Reported log e.name := by
    intro e he hpending p hp hsame
    have hname : p.name ∈ o.tournament.names := by
      rcases hp with hp | hp
      · exact List.mem_map_of_mem hp
      · exact hclear.known (List.mem_map_of_mem hp)
    rcases he with he | he
    · exact hclear.queue e he hpending p.name hname hsame
    · exact hclear.storedQueue e he hpending p.name hname hsame
  refine ⟨t, q, hwritten.readsAs hsound.storedTournament hsound.storedQueue, hreported, ?_⟩
  intro hnone e he hpending p hp
  by_contra hsame
  rw [Bool.not_eq_false] at hsame
  obtain ⟨asked, entry, stage, cause, hevent, -⟩ := hreported e he hpending p hp hsame
  exact hnone _ hevent entry stage cause rfl

/-- The tournament cannot be saved. -/
def noTournamentSaved : Trouble
  | .tournament => some (.unavailable "no space")
  | .queue => none

/-- The office after Ann has been accepted in memory only. -/
def annHalfAccepted : Office :=
  (annAsked.accept noTournamentSaved "ann ").office

theorem waiting_player_reported_ann :
    ∃ log, Run log annHalfAccepted ∧
      annHalfAccepted.queue.entries = [⟨"Ann", .pending, some springDay⟩] ∧
      annHalfAccepted.tournament.players = [⟨1, "Ann", false⟩] ∧
      ∃ asked entry stage cause,
        ⟨.accept asked, .error (.partialCommit entry stage cause)⟩ ∈ log ∧
          Text.sameName entry "Ann" = true := by
  obtain ⟨log, hasked⟩ := annAsked_run
  have haccept : Does annAsked noTournamentSaved (.accept "ann ") _ := .accept
  have haccepted : Run (log ++ [_]) annHalfAccepted := hasked.step haccept
  have hqueue : annHalfAccepted.queue.entries = [⟨"Ann", .pending, some springDay⟩] := by
    decide +kernel
  have hplayers : annHalfAccepted.tournament.players = [⟨1, "Ann", false⟩] := by
    decide +kernel
  have hwaits : ⟨"Ann", .pending, some springDay⟩ ∈ annHalfAccepted.queue.entries := by
    rw [hqueue]
    exact List.mem_singleton_self _
  have hplays : ⟨1, "Ann", false⟩ ∈ annHalfAccepted.tournament.players := by
    rw [hplayers]
    exact List.mem_singleton_self _
  obtain ⟨t, q, -, hreported, -⟩ := waiting_player_reported haccepted
  have hann := hreported _ (.inl hwaits) rfl _ (.inl hplays) (by decide +kernel)
  exact ⟨_, haccepted, hqueue, hplayers, hann⟩

end Office
end TournamentDesk
