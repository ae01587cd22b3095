import TournamentDesk.Swiss.Rounds
import TournamentDesk.Swiss.Standings

/-!
# Verbs as data

Everything that changes a tournament, in one type, so that runs of a tournament are lists of verbs.
-/

namespace TournamentDesk
namespace Swiss

/-- What can be asked of a tournament. -/
inductive Verb where
  | add (name : String)
  | remove (id : PlayerId)
  | start
  | pair (allowRepair : Bool)
  | nextRound
  | record (id : PlayerId) (score : Score)
  | standings
  | finish
deriving DecidableEq, Repr

/-- The answer to a verb: the number of the player it added, if it added one. -/
abbrev Answer := Option PlayerId

/-- A tournament after a verb, and the answer. -/
structure Step where
  tournament : Tournament
  answer : Answer

def Step.silent (t : Tournament) : Step :=
  ⟨t, none⟩

/-- A deed that has no answer. -/
def silently (d : Deed Tournament Refusal Unit) : Deed Tournament Refusal Answer := do
  d
  return none

/-- The deed that a verb asks for. -/
def Verb.deed (draw : Draw) : Verb → Deed Tournament Refusal Answer
  | .add name => do return some (← Tournament.adding name)
  | .remove id => silently (Tournament.removing id)
  | .start => silently (Tournament.starting draw)
  | .pair allowRepair => silently (Tournament.pairing draw allowRepair)
  | .nextRound => silently Tournament.closing
  | .record id score => silently (Tournament.recording id score)
  | .standings => silently (modify Tournament.updateStandings)
  | .finish => silently Tournament.finishing

namespace Tournament

/-- The step that a verb comes to, unless it is refused. -/
def perform (t : Tournament) (draw : Draw) (verb : Verb) : Except Refusal Step :=
  ((verb.deed draw).done t).map fun r => ⟨r.1, r.2⟩

theorem perform_eq (t : Tournament) (draw : Draw) (verb : Verb) :
    t.perform draw verb =
      match verb with
      | .add name => (t.addPlayer name).map fun r => ⟨r.1, some r.2⟩
      | .remove id => (t.removePlayer id).map Step.silent
      | .start => (t.start draw).map Step.silent
      | .pair allowRepair => (t.pair draw allowRepair).map Step.silent
      | .nextRound => t.nextRound.map Step.silent
      | .record id score => (t.recordResult id score).map Step.silent
      | .standings => .ok (Step.silent t.updateStandings)
      | .finish => t.finish.map Step.silent := by
  have hsilent (d : Deed Tournament Refusal Unit) :
      ((silently d).done t).map (fun r => Step.mk r.1 r.2) = (d.makes t).map Step.silent := by
    rw [silently, Deed.done_bind_const]
    cases d.makes t <;> rfl
  cases verb with
  | add name =>
      simp only [perform, Verb.deed, Deed.done_bind_pure, addPlayer]
      cases (adding name).done t <;> rfl
  | standings => rfl
  | _ => exact hsilent _

end Tournament

end Swiss
end TournamentDesk
