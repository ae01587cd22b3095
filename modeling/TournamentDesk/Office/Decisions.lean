import TournamentDesk.Office.Basic

/-!
# Requests and decisions

Taking in a request to play, accepting it and turning it down.

An acceptance first saves the tournament, in which the entrant now plays, and then the queue. When
either fails, the entry is pending again in memory, while the player stays on the roster.
-/

namespace TournamentDesk
namespace Office

open Registration.Queue (marking submitting)
open Storage (Trouble)
open Swiss (PlayerId)
open Swiss.Tournament (adding)
open Time (Instant)

/-- Takes in a request to play. -/
def submit (o : Office) (trouble : Trouble) (now : Instant) (name : String) : Outcome Unit :=
  match (submitting name o.onRoster now).run o.queue with
  | .error refusal queue => .refused { o with queue } (.registration refusal)
  | .ok position queue =>
    let changed := { o with queue }
    let w := changed.queueWrite trouble
    match trouble .queue with
    | none => ⟨.ok (), changed.wrote w, [w]⟩
    | some fault =>
      let left :=
        match o.policy with
        | .uniform => { o with queue := queue.discard position }
        | .acceptOnly => changed
      ⟨.error (.storage fault), left.wrote w, [w]⟩

/-- Accepts the pending entrant with a name, up to case and blanks at the ends. The entrant plays under
the name as it was given. Where a record cannot be saved, it does not matter whether the entry can be
marked as pending again. -/
def accept (o : Office) (trouble : Trouble) (name : String) : Outcome PlayerId :=
  match o.queue.findPending name with
  | .error refusal => .refused o (.registration refusal)
  | .ok found =>
    match (adding found.name).run o.tournament with
    | .error refusal tournament => .refused { o with tournament } (.tournament refusal)
    | .ok id tournament =>
      match (marking found.position .accepted).run o.queue with
      | .error refusal queue => .refused { o with tournament, queue } (.registration refusal)
      | .ok () queue =>
        let accepted := { o with tournament, queue }
        let restored := { accepted with queue := (marking found.position .pending).leaves queue }
        let w₁ := accepted.tournamentWrite trouble
        match trouble .tournament with
        | some fault =>
          ⟨.error (.partialCommit found.name .tournament (.storage fault)), restored.wrote w₁, [w₁]⟩
        | none =>
          let w₂ := accepted.queueWrite trouble
          match trouble .queue with
          | some fault =>
            ⟨.error (.partialCommit found.name .queue (.storage fault)),
              (restored.wrote w₁).wrote w₂, [w₁, w₂]⟩
          | none => ⟨.ok id, (accepted.wrote w₁).wrote w₂, [w₁, w₂]⟩

/-- Turns down the pending entrant with exactly this name. -/
def reject (o : Office) (trouble : Trouble) (name : String) : Outcome Unit :=
  match o.queue.findPendingExact name with
  | .error refusal => .refused o (.registration refusal)
  | .ok found =>
    match (marking found.position .rejected).run o.queue with
    | .error refusal queue => .refused { o with queue } (.registration refusal)
    | .ok () queue =>
      let rejected := { o with queue }
      let w := rejected.queueWrite trouble
      match trouble .queue with
      | none => ⟨.ok (), rejected.wrote w, [w]⟩
      | some fault =>
        match o.policy with
        | .acceptOnly => ⟨.error (.storage fault), rejected.wrote w, [w]⟩
        | .uniform =>
          match (marking found.position .pending).run queue with
          | .ok () queue => ⟨.error (.storage fault), { o with queue }.wrote w, [w]⟩
          | .error refusal queue => ⟨.error (.registration refusal), { o with queue }.wrote w, [w]⟩

end Office
end TournamentDesk
