/-!
# Deeds

A deed works on a state: it looks at it, changes it, and ends with a result or is refused. What it has
changed by the time it is refused stays changed, so a refusal that is to leave no trace must come before
all changes.

* `Looks.careful_bind`: a deed that first looks and is careful from there on is careful.
* `Sure.careful`: so is a deed that cannot be refused any more.
-/

namespace TournamentDesk

/-- Work on a state, with reasons to refuse it. -/
abbrev Deed (σ ε : Type) : Type → Type :=
  EStateM ε σ

namespace Deed

variable {σ ε α β : Type}

/-- Asks something about the state that may be a reason to refuse. -/
def look (f : σ → Except ε α) : Deed σ ε α := fun s =>
  match f s with
  | .ok a => .ok a s
  | .error e => .error e s

/-- Refuses if something is the case. -/
def refuseIf (c : Prop) [Decidable c] (e : ε) : Deed σ ε Unit := fun s =>
  if c then .error e s else .ok () s

/-- The state and the result that a deed ends with, unless it is refused. -/
def done (d : Deed σ ε α) (s : σ) : Except ε (σ × α) :=
  match d.run s with
  | .ok a left => .ok (left, a)
  | .error e _ => .error e

/-- The state that a deed makes out of a state, unless it is refused. -/
def makes (d : Deed σ ε Unit) (s : σ) : Except ε σ :=
  match d.run s with
  | .ok _ left => .ok left
  | .error e _ => .error e

/-- The state that a deed leaves, refused or not. -/
def leaves (d : Deed σ ε α) (s : σ) : σ :=
  match d.run s with
  | .ok _ left => left
  | .error _ left => left

/-! ## Single steps -/

theorem run_look (f : σ → Except ε α) (s : σ) :
    (look f).run s =
      match f s with
      | .ok a => .ok a s
      | .error e => .error e s :=
  rfl

theorem run_refuseIf (c : Prop) [Decidable c] (e : ε) (s : σ) :
    (refuseIf c e).run s = if c then .error e s else .ok () s :=
  rfl

/-! ## What deeds come to -/

theorem done_get_bind (d : σ → Deed σ ε α) (s : σ) : (get >>= d).done s = (d s).done s :=
  rfl

theorem done_modify_bind (f : σ → σ) (d : Unit → Deed σ ε α) (s : σ) :
    (modify f >>= d).done s = (d ()).done (f s) :=
  rfl

theorem done_refuseIf_bind (c : Prop) [Decidable c] (e : ε) (d : Unit → Deed σ ε α) (s : σ) :
    (refuseIf c e >>= d).done s = if c then .error e else (d ()).done s := by
  unfold done
  rw [EStateM.run_bind, run_refuseIf]
  by_cases h : c <;> simp [h]

/-- The result of a deed can be passed on as something else. -/
theorem done_bind_pure (d : Deed σ ε α) (f : α → β) (s : σ) :
    (d >>= fun a => pure (f a)).done s = (d.done s).map fun r => (r.1, f r.2) := by
  unfold done
  rw [EStateM.run_bind]
  cases h : d.run s <;> rfl

theorem done_bind_const (d : Deed σ ε Unit) (b : β) (s : σ) :
    (d >>= fun _ => pure b).done s = (d.makes s).map fun left => (left, b) := by
  unfold done makes
  rw [EStateM.run_bind]
  cases h : d.run s <;> rfl

theorem makes_get_bind (d : σ → Deed σ ε Unit) (s : σ) : (get >>= d).makes s = (d s).makes s :=
  rfl

theorem makes_modify (f : σ → σ) (s : σ) : (modify f : Deed σ ε Unit).makes s = .ok (f s) :=
  rfl

theorem makes_modify_bind (f : σ → σ) (d : Unit → Deed σ ε Unit) (s : σ) :
    (modify f >>= d).makes s = (d ()).makes (f s) :=
  rfl

theorem makes_look_bind (f : σ → Except ε α) (d : α → Deed σ ε Unit) (s : σ) :
    (look f >>= d).makes s = f s >>= fun a => (d a).makes s := by
  unfold makes
  rw [EStateM.run_bind, run_look]
  cases f s <;> rfl

theorem makes_refuseIf_bind (c : Prop) [Decidable c] (e : ε) (d : Unit → Deed σ ε Unit) (s : σ) :
    (refuseIf c e >>= d).makes s = if c then .error e else (d ()).makes s := by
  unfold makes
  rw [EStateM.run_bind, run_refuseIf]
  by_cases h : c <;> simp [h]

/-! ## What is left behind -/

/-- A deed that leaves the state as it was whenever it is refused. -/
def Careful (d : Deed σ ε α) : Prop :=
  ∀ ⦃s e left⦄, d.run s = .error e left → left = s

/-- A deed that leaves the state as it was, refused or not. -/
def Looks (d : Deed σ ε α) : Prop :=
  ∀ s, (∃ a, d.run s = .ok a s) ∨ ∃ e, d.run s = .error e s

/-- A deed that is never refused. -/
def Sure (d : Deed σ ε α) : Prop :=
  ∀ s, ∃ a left, d.run s = .ok a left

theorem looks_get : (get : Deed σ ε σ).Looks :=
  fun s => .inl ⟨s, rfl⟩

theorem looks_throw (e : ε) : (throw e : Deed σ ε α).Looks :=
  fun _ => .inr ⟨e, rfl⟩

theorem looks_look (f : σ → Except ε α) : (look f).Looks := by
  intro s
  rw [run_look]
  cases f s with
  | ok a => exact .inl ⟨a, rfl⟩
  | error e => exact .inr ⟨e, rfl⟩

theorem looks_refuseIf (c : Prop) [Decidable c] (e : ε) : (refuseIf (σ := σ) c e).Looks := by
  intro s
  rw [run_refuseIf]
  split
  · exact .inr ⟨e, rfl⟩
  · exact .inl ⟨(), rfl⟩

theorem sure_get : (get : Deed σ ε σ).Sure :=
  fun s => ⟨s, s, rfl⟩

theorem sure_pure (a : α) : (pure a : Deed σ ε α).Sure :=
  fun s => ⟨a, s, rfl⟩

theorem sure_modify (f : σ → σ) : (modify f : Deed σ ε Unit).Sure :=
  fun s => ⟨(), f s, rfl⟩

theorem Sure.bind
    {d : Deed σ ε α}
    {f : α → Deed σ ε β}
    (hd : d.Sure)
    (hf : ∀ a, (f a).Sure) :
    (d >>= f).Sure := by
  intro s
  obtain ⟨a, left, hrun⟩ := hd s
  rw [EStateM.run_bind, hrun]
  exact hf a left

theorem Sure.careful
    {d : Deed σ ε α}
    (h : d.Sure) :
    d.Careful := by
  intro s e left hrefused
  obtain ⟨a, left', hrun⟩ := h s
  rw [hrun] at hrefused
  cases hrefused

theorem Looks.careful
    {d : Deed σ ε α}
    (h : d.Looks) :
    d.Careful := by
  intro s e left hrefused
  rcases h s with ⟨a, hrun⟩ | ⟨e', hrun⟩ <;> rw [hrun] at hrefused <;> cases hrefused
  rfl

/-- What only looks can come before a careful deed. -/
theorem Looks.careful_bind
    {d : Deed σ ε α}
    {f : α → Deed σ ε β}
    (hd : d.Looks)
    (hf : ∀ a, (f a).Careful) :
    (d >>= f).Careful := by
  intro s e left hrefused
  rw [EStateM.run_bind] at hrefused
  rcases hd s with ⟨a, hrun⟩ | ⟨e', hrun⟩ <;> rw [hrun] at hrefused
  · exact hf a hrefused
  · cases hrefused
    rfl

/-- What is never refused can come after a careful deed. -/
theorem Careful.bind
    {d : Deed σ ε α}
    {f : α → Deed σ ε β}
    (hd : d.Careful)
    (hf : ∀ a, (f a).Sure) :
    (d >>= f).Careful := by
  intro s e left hrefused
  rw [EStateM.run_bind] at hrefused
  split at hrefused
  · next a middle hrun =>
    obtain ⟨b, left', hgoes⟩ := hf a middle
    rw [hgoes] at hrefused
    cases hrefused
  · next hrun =>
    cases hrefused
    exact hd hrun

/-! ## How a deed goes -/

theorem run_of_done
    {d : Deed σ ε α}
    {s left : σ}
    {a : α}
    (h : d.done s = .ok (left, a)) :
    d.run s = .ok a left := by
  unfold done at h
  split at h
  · next hrun =>
    cases h
    exact hrun
  · cases h

theorem run_of_makes
    {d : Deed σ ε Unit}
    {s left : σ}
    (h : d.makes s = .ok left) :
    d.run s = .ok () left := by
  unfold makes at h
  split at h
  · next hrun =>
    cases h
    exact hrun
  · cases h

/-- A careful deed that is refused leaves what it found. -/
theorem Careful.run_of_done
    {d : Deed σ ε α}
    (hd : d.Careful)
    {s : σ}
    {e : ε}
    (h : d.done s = .error e) :
    d.run s = .error e s := by
  unfold done at h
  split at h
  · cases h
  · next hrun =>
    cases h
    rw [hrun, hd hrun]

theorem Careful.run_of_makes
    {d : Deed σ ε Unit}
    (hd : d.Careful)
    {s : σ}
    {e : ε}
    (h : d.makes s = .error e) :
    d.run s = .error e s := by
  unfold makes at h
  split at h
  · cases h
  · next hrun =>
    cases h
    rw [hrun, hd hrun]

end Deed
end TournamentDesk
