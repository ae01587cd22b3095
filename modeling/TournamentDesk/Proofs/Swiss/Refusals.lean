import TournamentDesk.Proofs.Swiss.Reachable

/-!
# A refused verb leaves no trace

A verb works on the tournament in place, so what it has changed by the time it is refused would stay. But
every verb looks first: once it has changed something it is not refused any more.

* `Verb.deed_careful`: a refused verb leaves the tournament as it was.
* `run_deed_eq_ok_iff`, `run_deed_eq_error_iff`: how a verb goes and what it leaves.
* `after_of_ok`, `after_of_error`: the tournament after a verb.
-/

namespace TournamentDesk
namespace Swiss

open Deed

/-! ## Each verb -/

namespace Tournament

/-- All checks of an addition come before the number is taken. -/
theorem adding_careful (name : String) : (adding name).Careful := by
  refine (looks_refuseIf _ _).careful_bind fun _ => ?_
  refine looks_get.careful_bind fun t => ?_
  refine (looks_refuseIf _ _).careful_bind fun _ => ?_
  refine (looks_refuseIf _ _).careful_bind fun _ => ?_
  refine ((sure_modify _).bind fun _ => ?_).careful
  exact (sure_modify _).bind fun _ => sure_get.bind fun _ => sure_pure _

theorem removing_careful (id : PlayerId) : (removing id).Careful := by
  refine looks_get.careful_bind fun t => ?_
  split
  · exact (sure_modify _).careful
  · exact (looks_throw _).careful

/-- A start is refused for its phase or after the search for a pairing, and only then changes the phase. -/
theorem starting_careful (draw : Draw) : (starting draw).Careful := by
  refine (looks_look _).careful_bind fun _ => ?_
  refine (looks_look _).careful_bind fun tables => ?_
  refine ((sure_modify _).bind fun _ => ?_).careful
  exact (sure_modify _).bind fun _ => sure_modify _

theorem pairing_careful (draw : Draw) (allowRepair : Bool) : (pairing draw allowRepair).Careful := by
  refine (looks_look _).careful_bind fun _ => ?_
  refine looks_get.careful_bind fun t => ?_
  refine (looks_refuseIf _ _).careful_bind fun _ => ?_
  refine (looks_look _).careful_bind fun tables => ?_
  exact (sure_modify _).careful

theorem closing_careful : closing.Careful := by
  refine (looks_look _).careful_bind fun _ => ?_
  refine looks_get.careful_bind fun t => ?_
  refine (looks_refuseIf _ _).careful_bind fun _ => ?_
  refine (looks_refuseIf _ _).careful_bind fun _ => ?_
  refine ((sure_modify _).bind fun _ => ?_).careful
  exact (sure_modify _).bind fun _ => sure_modify _

theorem recording_careful (id : PlayerId) (score : Score) : (recording id score).Careful := by
  refine (looks_look _).careful_bind fun _ => ?_
  refine (looks_look _).careful_bind fun _ => ?_
  refine looks_get.careful_bind fun t => ?_
  refine (looks_refuseIf _ _).careful_bind fun _ => ?_
  refine (looks_look _).careful_bind fun tables => ?_
  exact (sure_modify _).careful

theorem finishing_careful : finishing.Careful :=
  (looks_look _).careful_bind fun _ => (sure_modify _).careful

end Tournament

/-! ## All verbs -/

theorem silently_careful
    {d : Deed Tournament Refusal Unit}
    (h : d.Careful) :
    (silently d).Careful :=
  h.bind fun _ => sure_pure _

/-- A refused verb leaves the tournament as it was. -/
theorem Verb.deed_careful
    (draw : Draw)
    (verb : Verb) :
    (verb.deed draw).Careful := by
  cases verb with
  | add name => exact (Tournament.adding_careful name).bind fun _ => sure_pure _
  | remove id => exact silently_careful (Tournament.removing_careful id)
  | start => exact silently_careful (Tournament.starting_careful draw)
  | pair allowRepair => exact silently_careful (Tournament.pairing_careful draw allowRepair)
  | nextRound => exact silently_careful Tournament.closing_careful
  | record id score => exact silently_careful (Tournament.recording_careful id score)
  | standings => exact silently_careful (sure_modify _).careful
  | finish => exact silently_careful Tournament.finishing_careful

theorem run_deed_eq_ok_iff
    {t : Tournament}
    {draw : Draw}
    {verb : Verb}
    {s : Step} :
    (verb.deed draw).run t = .ok s.answer s.tournament ↔ t.perform draw verb = .ok s := by
  unfold Tournament.perform done
  cases (verb.deed draw).run t with
  | ok answer left =>
      cases s
      simp [Except.map, and_comm]
  | error refusal left => simp [Except.map]

/-- A verb is refused, and then leaves what it found. -/
theorem run_deed_eq_error_iff
    {t left : Tournament}
    {draw : Draw}
    {verb : Verb}
    {refusal : Refusal} :
    (verb.deed draw).run t = .error refusal left ↔
      t.perform draw verb = .error refusal ∧ left = t := by
  have hcareful := verb.deed_careful draw (s := t)
  unfold Tournament.perform done
  cases hrun : (verb.deed draw).run t with
  | ok answer left' => simp [Except.map]
  | error refusal' left' =>
      obtain rfl := hcareful hrun
      simp [Except.map, eq_comm]

/-- A tournament after a verb, refused or not. -/
def Tournament.after (t : Tournament) (draw : Draw) (verb : Verb) : Tournament :=
  (verb.deed draw).leaves t

theorem after_of_ok
    {t : Tournament}
    {draw : Draw}
    {verb : Verb}
    {s : Step}
    (h : t.perform draw verb = .ok s) :
    t.after draw verb = s.tournament := by
  rw [Tournament.after, leaves, run_deed_eq_ok_iff.2 h]

theorem after_of_error
    {t : Tournament}
    {draw : Draw}
    {verb : Verb}
    {refusal : Refusal}
    (h : t.perform draw verb = .error refusal) :
    t.after draw verb = t := by
  rw [Tournament.after, leaves, run_deed_eq_error_iff.2 ⟨h, rfl⟩]

end Swiss
end TournamentDesk
