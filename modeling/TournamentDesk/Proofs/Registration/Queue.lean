import Mathlib.Data.List.Basic
import TournamentDesk.Registration.Queue

/-!
# What the queue does

A request is taken in only under a name that nobody else waits or plays under, and a decision changes
one entry. So nobody ever waits twice under one name.

* `submit_eq_ok`: what is known when a request is taken in.
* `findPending_eq_ok`, `findPendingExact_eq_ok`: what is known of an entry that was looked up.
* `Queue.Unambiguous`: nobody waits twice, so that whoever waits is found.
* `Queue.KeptIn`: entries stay where they are, and what is decided stays decided.
-/

namespace TournamentDesk
namespace Registration

open Deed
open Time (Instant)

theorem Entrant.isPending_iff (e : Entrant) : e.isPending = true ↔ e.status = .pending :=
  decide_eq_true_iff

namespace Queue

/-! ## Requests -/

theorem submit_eq_ok
    {q : Queue}
    {name : String}
    {onRoster : String → Bool}
    {now : Instant}
    {r : Queue × Nat}
    (h : q.submit name onRoster now = .ok r) :
    Text.isBlank name = false ∧ q.hasPending name = false ∧ onRoster name = false ∧
      r = (q.push name now, q.entries.length) := by
  rw [submit_eq] at h
  split at h
  · cases h
  · next hvisible =>
    split at h
    · cases h
    · next hfresh =>
      split at h
      · cases h
      · next hfree =>
        cases h
        exact ⟨by simpa using hvisible, by simpa using hfresh, by simpa using hfree, rfl⟩

theorem not_hasPending
    {q : Queue}
    {name : String}
    (h : q.hasPending name = false) :
    ∀ e ∈ q.entries, e.isPending = true → Text.sameName e.name name = false := by
  intro e he hpending
  unfold hasPending at h
  rw [List.any_eq_false] at h
  simpa [hpending, Entrant.matchesName] using h e he

/-- A request that is refused leaves the queue as it was. -/
theorem submitting_careful
    (name : String)
    (onRoster : String → Bool)
    (now : Instant) :
    (submitting name onRoster now).Careful := by
  refine (looks_refuseIf _ _).careful_bind fun _ => ?_
  refine looks_get.careful_bind fun q => ?_
  refine (looks_refuseIf _ _).careful_bind fun _ => ?_
  refine (looks_refuseIf _ _).careful_bind fun _ => ?_
  refine ((sure_modify _).bind fun _ => ?_).careful
  exact sure_get.bind fun _ => sure_pure _

/-- A request that is taken back leaves no trace. -/
theorem discard_push
    (q : Queue)
    (name : String)
    (now : Instant) :
    (q.push name now).discard q.entries.length = q := by
  simp [push, discard, List.eraseIdx_append]

/-! ## Looking up -/

theorem locate_eq_some
    {q : Queue}
    {p : Entrant → Bool}
    {found : Found}
    (h : q.locate p = some found) :
    ∃ e, q.entries[found.position]? = some e ∧ p e = true ∧ e.name = found.name := by
  unfold locate at h
  split at h
  · next i hi =>
    obtain ⟨hlt, hp, -⟩ := List.findIdx?_eq_some_iff_getElem.1 hi
    rw [List.getElem?_eq_getElem hlt] at h
    cases h
    exact ⟨_, List.getElem?_eq_getElem hlt, hp, rfl⟩
  · cases h

theorem locate_eq_none
    {q : Queue}
    {p : Entrant → Bool}
    (h : q.locate p = none) :
    ∀ e ∈ q.entries, p e = false := by
  unfold locate at h
  split at h
  · next i hi =>
    obtain ⟨hlt, -⟩ := List.findIdx?_eq_some_iff_getElem.1 hi
    rw [List.getElem?_eq_getElem hlt] at h
    cases h
  · next hnone =>
    simpa using hnone

/-- An entry that alone has a property is the one that is found. -/
theorem locate_of_only
    {q : Queue}
    {p : Entrant → Bool}
    {i : Nat}
    {e : Entrant}
    (hfound : q.entries[i]? = some e)
    (hp : p e = true)
    (honly : ∀ j a, q.entries[j]? = some a → p a = true → j = i) :
    q.locate p = some ⟨i, e.name⟩ := by
  obtain ⟨hlt, hentry⟩ := List.getElem?_eq_some_iff.1 hfound
  have hfirst : q.entries.findIdx? p = some i := by
    refine List.findIdx?_eq_some_iff_getElem.2 ⟨hlt, by rw [hentry, hp], ?_⟩
    intro j hj hother
    exact absurd (honly j _ (List.getElem?_eq_getElem _) hother) (Nat.ne_of_lt hj)
  simp only [locate, hfirst, hfound, Option.map_some]

theorem findPending_eq_ok
    {q : Queue}
    {name : String}
    {found : Found}
    (h : q.findPending name = .ok found) :
    ∃ e, q.entries[found.position]? = some e ∧ e.status = .pending ∧
      Text.sameName e.name name = true ∧ e.name = found.name := by
  unfold findPending at h
  split at h
  · next f hf =>
    cases h
    obtain ⟨e, he, hp, hname⟩ := locate_eq_some hf
    rw [Bool.and_eq_true, Entrant.isPending_iff] at hp
    exact ⟨e, he, hp.1, hp.2, hname⟩
  · cases h

/-- When nobody is found, nobody waits under the name, and all who wait are listed. -/
theorem findPending_eq_error
    {q : Queue}
    {name : String}
    {refusal : Refusal}
    (h : q.findPending name = .error refusal) :
    refusal = .notFound name q.pendingNames ∧
      ∀ e ∈ q.entries, e.isPending = true → Text.sameName e.name name = false := by
  unfold findPending at h
  split at h
  · cases h
  · next hnone =>
    cases h
    refine ⟨rfl, fun e he hpending => ?_⟩
    simpa [hpending, Entrant.matchesName] using locate_eq_none hnone e he

theorem findPendingExact_eq_ok
    {q : Queue}
    {name : String}
    {found : Found}
    (h : q.findPendingExact name = .ok found) :
    ∃ e, q.entries[found.position]? = some e ∧ e.status = .pending ∧ e.name = name := by
  unfold findPendingExact at h
  split at h
  · next f hf =>
    cases h
    obtain ⟨e, he, hp, -⟩ := locate_eq_some hf
    rw [Bool.and_eq_true, Entrant.isPending_iff, decide_eq_true_iff] at hp
    exact ⟨e, he, hp.1, hp.2⟩
  · cases h

/-! ## Decisions -/

theorem getElem?_setStatus
    (q : Queue)
    (i j : Nat)
    (s : Status) :
    (q.setStatus i s).entries[j]? =
      q.entries[j]?.map fun e => if i = j then { e with status := s } else e := by
  rw [setStatus, List.getElem?_modify]
  rfl

/-- An entry that has a status already is not changed by setting it. -/
theorem setStatus_self
    {q : Queue}
    {i : Nat}
    {e : Entrant}
    (h : q.entries[i]? = some e) :
    q.setStatus i e.status = q := by
  have hentries : (q.setStatus i e.status).entries = q.entries := by
    refine List.ext_getElem? ?_
    intro j
    rw [getElem?_setStatus]
    by_cases hij : i = j
    · subst hij
      simp [h]
    · simp [hij]
  calc
    q.setStatus i e.status = ⟨(q.setStatus i e.status).entries⟩ := rfl
    _ = q := by rw [hentries]

/-- An entry of the queue after a decision is an old one or the one that was decided. -/
theorem mem_setStatus
    {q : Queue}
    {i : Nat}
    {s : Status}
    {e' : Entrant}
    (h : e' ∈ (q.setStatus i s).entries) :
    e' ∈ q.entries ∨ ∃ e, q.entries[i]? = some e ∧ e' = { e with status := s } := by
  obtain ⟨j, hj⟩ := List.mem_iff_getElem?.1 h
  rw [getElem?_setStatus] at hj
  obtain ⟨e, he, rfl⟩ := Option.map_eq_some_iff.1 hj
  by_cases hij : i = j
  · subst hij
    exact .inr ⟨e, he, if_pos rfl⟩
  · rw [if_neg hij]
    exact .inl (List.mem_of_getElem? he)

/-- What holds of all entries and of a new one holds of all entries after a request. -/
theorem forall_push
    {P : Entrant → Prop}
    {q : Queue}
    (h : ∀ e ∈ q.entries, P e)
    {name : String}
    {now : Instant}
    (hnew : P ⟨name, .pending, some now⟩) :
    ∀ e ∈ (q.push name now).entries, P e := by
  intro e he
  rcases List.mem_append.1 he with he | he
  · exact h e he
  · rw [List.mem_singleton.1 he]
    exact hnew

/-- What holds of all entries and of the one that is decided holds of all entries after the decision. -/
theorem forall_setStatus
    {P : Entrant → Prop}
    {q : Queue}
    {i : Nat}
    {s : Status}
    (h : ∀ e ∈ q.entries, P e)
    (hdecided : ∀ e, q.entries[i]? = some e → P { e with status := s }) :
    ∀ e ∈ (q.setStatus i s).entries, P e := by
  intro e' he'
  rcases mem_setStatus he' with he | ⟨e, he, rfl⟩
  · exact h e' he
  · exact hdecided e he

/-- Whoever still waits after a decision waited before, in another place. -/
theorem pending_of_setStatus
    {q : Queue}
    {i j : Nat}
    {s : Status}
    {e : Entrant}
    (hs : s ≠ .pending)
    (h : (q.setStatus i s).entries[j]? = some e)
    (hpending : e.isPending = true) :
    i ≠ j ∧ q.entries[j]? = some e := by
  rw [getElem?_setStatus] at h
  obtain ⟨e', he', rfl⟩ := Option.map_eq_some_iff.1 h
  by_cases hij : i = j
  · rw [Entrant.isPending_iff, if_pos hij] at hpending
    exact absurd hpending hs
  · exact ⟨hij, by rw [he', if_neg hij]⟩

/-- The status of an entry that is there can be set. -/
theorem run_marking
    {q : Queue}
    {i : Nat}
    {e : Entrant}
    (h : q.entries[i]? = some e)
    (s : Status) :
    (marking i s).run q = .ok () (q.setStatus i s) := by
  have hlt : ¬q.entries.length ≤ i := Nat.not_le.2 (List.getElem?_eq_some_iff.1 h).1
  simp [marking, run_refuseIf, hlt]

/-- An entry whose status was set can be given its old status again. -/
theorem run_marking_setStatus
    {q : Queue}
    {i : Nat}
    {e : Entrant}
    (h : q.entries[i]? = some e)
    (s : Status) :
    (marking i e.status).run (q.setStatus i s) = .ok () q := by
  have hset : (q.setStatus i s).entries[i]? = some { e with status := s } := by
    simp [getElem?_setStatus, h]
  have hagain : (q.setStatus i s).setStatus i e.status = q.setStatus i e.status := by
    simp only [setStatus, List.modify_modify_eq]
    rfl
  rw [run_marking hset, hagain, setStatus_self h]

/-! ## Nobody waits twice -/

/-- No two entries wait under one name, up to case and blanks at the ends. -/
def Unambiguous (q : Queue) : Prop :=
  ∀ (i j : Nat) (a b : Entrant), q.entries[i]? = some a → q.entries[j]? = some b →
    a.isPending = true → b.isPending = true → Text.sameName a.name b.name = true → i = j

theorem unambiguous_empty : empty.Unambiguous := by
  intro i j a b ha
  simp [empty] at ha

theorem getElem?_push
    {q : Queue}
    {name : String}
    {now : Instant}
    {i : Nat}
    {e : Entrant}
    (h : (q.push name now).entries[i]? = some e) :
    q.entries[i]? = some e ∨ i = q.entries.length ∧ e = ⟨name, .pending, some now⟩ := by
  rw [push] at h
  rcases Nat.lt_or_ge i q.entries.length with hlt | hge
  · rw [List.getElem?_append_left hlt] at h
    exact .inl h
  · rw [List.getElem?_append_right hge, List.getElem?_singleton] at h
    split at h
    · next hzero =>
      cases h
      exact .inr ⟨by omega, rfl⟩
    · cases h

theorem Unambiguous.push
    {q : Queue}
    (h : q.Unambiguous)
    {name : String}
    (hfresh : ∀ e ∈ q.entries, e.isPending = true → Text.sameName e.name name = false)
    (now : Instant) :
    (q.push name now).Unambiguous := by
  intro i j a b ha hb hpa hpb hsame
  rcases getElem?_push ha with ha | ⟨rfl, rfl⟩ <;> rcases getElem?_push hb with hb | ⟨rfl, rfl⟩
  · exact h i j a b ha hb hpa hpb hsame
  · rw [hfresh a (List.mem_of_getElem? ha) hpa] at hsame
    cases hsame
  · rw [Text.sameName_iff] at hsame
    have hother := hfresh b (List.mem_of_getElem? hb) hpb
    rw [(Text.sameName_iff _ _).2 hsame.symm] at hother
    cases hother
  · rfl

theorem Unambiguous.setStatus
    {q : Queue}
    (h : q.Unambiguous)
    (i : Nat)
    {s : Status}
    (hs : s ≠ .pending) :
    (q.setStatus i s).Unambiguous := by
  intro j k a b ha hb hpa hpb hsame
  obtain ⟨-, ha⟩ := pending_of_setStatus hs ha hpa
  obtain ⟨-, hb⟩ := pending_of_setStatus hs hb hpb
  exact h j k a b ha hb hpa hpb hsame

/-- Whoever waits under a name is found under any spelling of it, and nobody else is. -/
theorem Unambiguous.findPending_eq_ok_iff
    {q : Queue}
    (h : q.Unambiguous)
    (name : String)
    (found : Found) :
    q.findPending name = .ok found ↔
      ∃ e, q.entries[found.position]? = some e ∧ e.isPending = true ∧
        Text.normalForm e.name = Text.normalForm name ∧ e.name = found.name := by
  constructor
  · intro hfind
    obtain ⟨e, he, hpending, hsame, hname⟩ := findPending_eq_ok hfind
    exact ⟨e, he, decide_eq_true hpending, (Text.sameName_iff _ _).1 hsame, hname⟩
  · rintro ⟨e, he, hpending, hsame, hname⟩
    have hlocate : q.locate (fun e => e.isPending && e.matchesName name) =
        some ⟨found.position, e.name⟩ := by
      refine locate_of_only he ?_ ?_
      · rw [hpending, Entrant.matchesName, (Text.sameName_iff _ _).2 hsame]
        rfl
      · intro j a ha hother
        rw [Bool.and_eq_true, Entrant.matchesName, Text.sameName_iff] at hother
        have hboth := (Text.sameName_iff _ _).2 (hother.2.trans hsame.symm)
        exact h j found.position a e ha he hother.1 hpending hboth
    unfold findPending
    rw [hlocate, hname]

/-- Whoever waits is found under the exact name. -/
theorem Unambiguous.findPendingExact_eq_ok
    {q : Queue}
    (h : q.Unambiguous)
    {i : Nat}
    {e : Entrant}
    (hfound : q.entries[i]? = some e)
    (hpending : e.isPending = true) :
    q.findPendingExact e.name = .ok ⟨i, e.name⟩ := by
  have hlocate : q.locate (fun a => a.isPending && a.name = e.name) = some ⟨i, e.name⟩ := by
    refine locate_of_only hfound (by simp [hpending]) ?_
    intro j a ha hother
    rw [Bool.and_eq_true, decide_eq_true_iff] at hother
    have hsame : Text.sameName a.name e.name = true := by
      rw [hother.2, Text.sameName_iff]
    exact h j i a e ha hfound hother.1 hpending hsame
  rw [findPendingExact, hlocate]

theorem findPendingExact_eq_error
    {q : Queue}
    {name : String}
    (h : ∀ e ∈ q.entries, e.isPending = true → e.name ≠ name) :
    q.findPendingExact name = .error (.notFound name q.pendingNames) := by
  cases hfind : q.findPendingExact name with
  | ok found =>
      obtain ⟨e, he, hpending, hname⟩ := findPendingExact_eq_ok hfind
      exact absurd hname (h e (List.mem_of_getElem? he) (e.isPending_iff.2 hpending))
  | error refusal =>
      unfold findPendingExact at hfind
      split at hfind <;> cases hfind
      rfl

/-! ## Entries stay -/

/-- Every entry of a queue is at the same position of a later one, with its name and time, and with its
status if it was decided. -/
def KeptIn (q later : Queue) : Prop :=
  ∀ (i : Nat) (e : Entrant), q.entries[i]? = some e → ∃ e', later.entries[i]? = some e' ∧
    e'.name = e.name ∧ e'.submittedAt = e.submittedAt ∧ (e.isPending = false → e' = e)

theorem keptIn_refl (q : Queue) : q.KeptIn q :=
  fun _ e he => ⟨e, he, rfl, rfl, fun _ => rfl⟩

theorem KeptIn.push
    {q later : Queue}
    (h : q.KeptIn later)
    (name : String)
    (now : Instant) :
    q.KeptIn (later.push name now) := by
  intro i e he
  obtain ⟨e', he', hkept⟩ := h i e he
  refine ⟨e', ?_, hkept⟩
  rw [Queue.push, List.getElem?_append_left (List.getElem?_eq_some_iff.1 he').1]
  exact he'

/-- A decision about an entry that waits keeps all others. -/
theorem KeptIn.setStatus
    {q later : Queue}
    (h : q.KeptIn later)
    {i : Nat}
    {e : Entrant}
    (hfound : later.entries[i]? = some e)
    (hpending : e.status = .pending)
    (s : Status) :
    q.KeptIn (later.setStatus i s) := by
  intro j a ha
  obtain ⟨b, hb, hname, htime, hdecided⟩ := h j a ha
  rw [getElem?_setStatus, hb, Option.map_some]
  by_cases hij : i = j
  · subst hij
    obtain rfl : e = b := Option.some.inj (hfound.symm.trans hb)
    rw [if_pos rfl]
    refine ⟨_, rfl, hname, htime, ?_⟩
    -- an entry that still waits cannot be one that was decided
    intro hnot
    rw [← hdecided hnot, Entrant.isPending, hpending] at hnot
    cases hnot
  · rw [if_neg hij]
    exact ⟨b, rfl, hname, htime, hdecided⟩

end Queue

end Registration
end TournamentDesk
