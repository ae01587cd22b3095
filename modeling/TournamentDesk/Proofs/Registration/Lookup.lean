import TournamentDesk.Proofs.Registration.Queue

/-!
# Requests and lookups

A request looks for a pending entry with its name, and so does a lookup. The two agree on every queue,
also on one in which several entries wait under one name: a request is refused for an entry that waits
exactly when a lookup finds one, and a request that is taken in is found under every spelling of its name
and changes no other lookup.

* `findPending_push`: what is found after a request, for any name.
* `request_eq`: what is answered to a request, and the queue after it.
* `submission_and_lookup_agree`: requests and lookups side by side.
-/

namespace TournamentDesk
namespace Registration

open Text (normalForm)
open Time (Instant)

namespace Queue

/-! ## Looking up -/

/-- An entry that is looked up is looked for among the old entries first. -/
theorem locate_push
    (q : Queue)
    (name : String)
    (now : Instant)
    (p : Entrant → Bool) :
    (q.push name now).locate p =
      (q.locate p).or (if p ⟨name, .pending, some now⟩ then some ⟨q.entries.length, name⟩ else none) := by
  simp only [locate, push, List.findIdx?_append]
  cases hfirst : q.entries.findIdx? p with
  | some i =>
      have hi : i < q.entries.length := (List.findIdx?_eq_some_iff_getElem.1 hfirst).1
      simp [List.getElem?_append_left hi, hi]
  | none =>
      by_cases hp : p ⟨name, .pending, some now⟩ = true <;> simp [hp, List.findIdx?_cons]

theorem pending_push
    (q : Queue)
    (name : String)
    (now : Instant) :
    (q.push name now).pending = q.pending ++ [⟨name, .pending, some now⟩] := by
  simp [pending, push, Entrant.isPending]

/-- After a request, a lookup finds what it found before, or else the new entry if that has the name. -/
theorem findPending_push
    (q : Queue)
    (name : String)
    (now : Instant)
    (other : String) :
    (q.push name now).findPending other =
      match q.findPending other with
      | .ok found => .ok found
      | .error _ =>
        if normalForm name = normalForm other then .ok ⟨q.entries.length, name⟩
        else .error (.notFound other (q.pendingNames ++ [name])) := by
  have hnames : (q.push name now).pendingNames = q.pendingNames ++ [name] := by
    simp [pendingNames, pending_push]
  simp only [findPending, locate_push, hnames]
  cases q.locate fun e => e.isPending && e.matchesName other with
  | some found => rfl
  | none =>
      by_cases hsame : normalForm name = normalForm other <;>
        simp [Entrant.isPending, Entrant.matchesName, Text.sameName, hsame]

/-- Some entry waits under a name exactly when a lookup of the name finds one. -/
theorem hasPending_iff
    (q : Queue)
    (name : String) :
    q.hasPending name = true ↔ ∃ found, q.findPending name = .ok found := by
  constructor
  · intro h
    cases hfind : q.findPending name with
    | ok found => exact ⟨found, rfl⟩
    | error refusal =>
        obtain ⟨e, he, hwaits⟩ := List.any_eq_true.1 h
        rw [Bool.and_eq_true, Entrant.matchesName] at hwaits
        rw [(findPending_eq_error hfind).2 e he hwaits.1] at hwaits
        cases hwaits.2
  · rintro ⟨found, hfind⟩
    obtain ⟨e, he, hpending, hsame, -⟩ := findPending_eq_ok hfind
    refine List.any_eq_true.2 ⟨e, List.mem_of_getElem? he, ?_⟩
    rw [Bool.and_eq_true]
    exact ⟨e.isPending_iff.2 hpending, hsame⟩

/-! ## Requests -/

/-- The answer to a request to play, and the queue after it. -/
def request
    (q : Queue)
    (name : String)
    (onRoster : String → Bool)
    (now : Instant) :
    Except Refusal Nat × Queue :=
  match (submitting name onRoster now).run q with
  | .ok position later => (.ok position, later)
  | .error refusal later => (.error refusal, later)

theorem request_eq_submit
    (q : Queue)
    (name : String)
    (onRoster : String → Bool)
    (now : Instant) :
    q.request name onRoster now =
      match q.submit name onRoster now with
      | .ok (later, position) => (.ok position, later)
      | .error refusal => (.error refusal, q) := by
  unfold request
  cases h : q.submit name onRoster now with
  | ok r => rw [Deed.run_of_done h]
  | error refusal => rw [(submitting_careful name onRoster now).run_of_done h]

/-- A request under a name that is not blank has three answers, and changes nothing where it is refused. -/
theorem request_eq
    (q : Queue)
    {name : String}
    (hvisible : Text.isBlank name = false)
    (onRoster : String → Bool)
    (now : Instant) :
    q.request name onRoster now =
      if q.hasPending name then (.error (.alreadyPending name), q)
      else if onRoster name then (.error (.alreadyActive name), q)
      else (.ok q.entries.length, q.push name now) := by
  simp only [request_eq_submit, submit_eq, hvisible, Bool.false_eq_true, if_false]
  by_cases hpending : q.hasPending name = true
  · simp [hpending]
  · by_cases hactive : onRoster name = true <;> simp [hpending, hactive]

/-- What becomes of a queue that takes in a request under a name. -/
structure TakesIn (q : Queue) (name : String) (now : Instant) (later : Queue) : Prop where
  entries : later.entries = q.entries ++ [⟨name, .pending, some now⟩]
  pending : later.pending = q.pending ++ [⟨name, .pending, some now⟩]
  /-- The new entry is found under every spelling of its name, with the name as it was given. -/
  found : ∀ other, normalForm other = normalForm name →
    later.findPending other = .ok ⟨q.entries.length, name⟩
  /-- Whoever is found under another name was found before. -/
  others : ∀ other, normalForm other ≠ normalForm name →
    ∀ found, later.findPending other = .ok found ↔ q.findPending other = .ok found
  /-- Where nobody is found, all who wait are listed, before and after. -/
  nobody : ∀ other, normalForm other ≠ normalForm name →
    ∀ refusal, q.findPending other = .error refusal →
      refusal = .notFound other q.pendingNames ∧
        later.findPending other = .error (.notFound other (q.pendingNames ++ [name]))

theorem push_takesIn
    {q : Queue}
    {name : String}
    (h : q.hasPending name = false)
    (now : Instant) :
    q.TakesIn name now (q.push name now) := by
  have hnone : ∀ other, normalForm other = normalForm name → ∀ found,
      q.findPending other ≠ .ok found := by
    intro other hsame found hfind
    obtain ⟨e, he, hpending, hnamed, -⟩ := findPending_eq_ok hfind
    have hwaits := not_hasPending h e (List.mem_of_getElem? he) (e.isPending_iff.2 hpending)
    rw [Text.sameName_iff, hsame, ← Text.sameName_iff, hwaits] at hnamed
    cases hnamed
  constructor
  · rfl
  · exact pending_push q name now
  · intro other hsame
    rw [findPending_push]
    cases hfind : q.findPending other with
    | ok found => exact absurd hfind (hnone other hsame found)
    | error refusal => exact if_pos hsame.symm
  · intro other hne found
    rw [findPending_push]
    cases q.findPending other with
    | ok before => rfl
    | error refusal => simp [hne.symm]
  · intro other hne refusal hfind
    rw [findPending_push, hfind]
    exact ⟨(findPending_eq_error hfind).1, if_neg hne.symm⟩

/-- Requests and lookups agree on every queue, whatever it holds. A request under a name that is not blank
is refused for an entry that waits exactly when a lookup of the name finds one; then the queue stays as it
is, and the roster is not asked. Otherwise it is refused for a player exactly when the roster has the name as
it was given. Otherwise it is taken in: one entry more waits under that very name, it is found under every
spelling of it, and all other lookups are as before. -/
theorem submission_and_lookup_agree
    (q : Queue)
    {name : String}
    (hvisible : Text.isBlank name = false)
    (now : Instant) :
    (∀ onRoster, (q.request name onRoster now).1 = .error (.alreadyPending name) ↔
      ∃ found, q.findPending name = .ok found) ∧
    (∀ found, q.findPending name = .ok found →
      q.asksRoster name = false ∧
      ∀ onRoster, q.request name onRoster now = (.error (.alreadyPending name), q)) ∧
    (∀ refusal, q.findPending name = .error refusal →
      q.asksRoster name = true ∧
      ∀ onRoster,
        ((q.request name onRoster now).1 = .error (.alreadyActive name) ↔ onRoster name = true) ∧
        (onRoster name = true → (q.request name onRoster now).2 = q) ∧
        (onRoster name = false →
          ∃ later, q.request name onRoster now = (.ok q.entries.length, later) ∧
            q.TakesIn name now later)) := by
  refine ⟨?_, ?_, ?_⟩
  · intro onRoster
    rw [← hasPending_iff, request_eq q hvisible]
    by_cases hpending : q.hasPending name = true
    · simp [hpending]
    · by_cases hactive : onRoster name = true <;> simp [hpending, hactive]
  · intro found hfind
    have hpending : q.hasPending name = true := (q.hasPending_iff name).2 ⟨found, hfind⟩
    refine ⟨by simp [asksRoster, hpending], fun onRoster => ?_⟩
    rw [request_eq q hvisible, if_pos hpending]
  · intro refusal hfind
    have hfresh : q.hasPending name = false := by
      by_contra hpending
      obtain ⟨found, hfound⟩ := (q.hasPending_iff name).1 (by simpa using hpending)
      rw [hfind] at hfound
      cases hfound
    refine ⟨by simp [asksRoster, hvisible, hfresh], fun onRoster => ?_⟩
    rw [request_eq q hvisible, hfresh]
    refine ⟨?_, ?_, ?_⟩
    · by_cases hactive : onRoster name = true <;> simp [hactive]
    · intro hactive
      simp [hactive]
    · intro hfree
      exact ⟨_, by simp [hfree], push_takesIn hfresh now⟩

/-- A queue in which Bob waits twice and Ann was turned down. -/
def bobTwice : Queue :=
  ⟨[⟨"Ann", .rejected, none⟩, ⟨" bob", .pending, none⟩, ⟨"BOB", .pending, none⟩]⟩

/-- Late on a leap day. -/
def leapDayNight : Instant :=
  ⟨⟨2024, 2, 29, by decide, by decide⟩, 84600, 500000000, by decide, by decide, by decide⟩

/-- Bob cannot ask again, although the roster has the name. Ann can, although the roster has another
spelling of the name, and is found behind the two, of whom the first one is found. -/
theorem submission_and_lookup_agree_bobTwice :
    Text.isBlank "ann " = false ∧
      bobTwice.request "Bob" (fun _ => true) leapDayNight =
        (.error (.alreadyPending "Bob"), bobTwice) ∧
      ∃ later, bobTwice.request "ann " (fun name => name = "ann") leapDayNight = (.ok 3, later) ∧
        later.findPending " ANN" = .ok ⟨3, "ann "⟩ ∧
        later.findPending "bob" = .ok ⟨1, " bob"⟩ := by
  have hann : Text.isBlank "ann " = false := by decide +kernel
  have hbob : Text.isBlank "Bob" = false := by decide +kernel
  have hfirst : ∀ name ∈ ["Bob", "bob"], bobTwice.findPending name = .ok ⟨1, " bob"⟩ := by
    decide +kernel
  have hnone : bobTwice.findPending "ann " = .error (.notFound "ann " [" bob", "BOB"]) := by
    decide +kernel
  obtain ⟨-, hrefused, -⟩ := submission_and_lookup_agree bobTwice hbob leapDayNight
  obtain ⟨-, -, htaken⟩ := submission_and_lookup_agree bobTwice hann leapDayNight
  obtain ⟨-, hanswer⟩ := htaken _ hnone
  obtain ⟨later, hlater, hin⟩ := (hanswer fun name => name = "ann").2.2 (by decide)
  refine ⟨hann, (hrefused _ (hfirst "Bob" (by decide))).2 _, later, hlater, ?_, ?_⟩
  · exact hin.found " ANN" (by decide +kernel)
  · exact (hin.others "bob" (by decide +kernel) _).2 (hfirst "bob" (by decide))

end Queue

end Registration
end TournamentDesk
