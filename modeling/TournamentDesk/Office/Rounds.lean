import TournamentDesk.Office.Basic

/-!
# Running the tournament

A change of the tournament is made in memory and then saved. A refused verb saves nothing, and leaves in
memory what it has changed by then. When the save fails, the change stays in memory.
-/

namespace TournamentDesk
namespace Office

open Storage (Trouble)
open Swiss (Answer Draw Tournament Verb)

/-- How verbs done one after the other went. The verbs before the first refusal stay done. -/
structure Spree where
  /-- The answer to the last verb, or the first refusal. -/
  result : Except Swiss.Refusal Answer
  tournament : Tournament

/-- Does verbs one after the other, up to the first refusal. -/
def perform (draw : Draw) (t : Tournament) (last : Answer) : List Verb → Spree
  | [] => ⟨.ok last, t⟩
  | v :: rest =>
    match (v.deed draw).run t with
    | .error refusal left => ⟨.error refusal, left⟩
    | .ok answer left => perform draw left answer rest

def saveTournament {α : Type} (o : Office) (trouble : Trouble) (answer : α) : Outcome α :=
  let w := o.tournamentWrite trouble
  match trouble .tournament with
  | none => ⟨.ok answer, o.wrote w, [w]⟩
  | some fault => ⟨.error (.storage fault), o.wrote w, [w]⟩

/-- Does verbs one after the other and saves the tournament once. -/
def runAll (o : Office) (trouble : Trouble) (draw : Draw) (verbs : List Verb) : Outcome Answer :=
  let spree := perform draw o.tournament none verbs
  let changed := { o with tournament := spree.tournament }
  match spree.result with
  | .error refusal => ⟨.error (.tournament refusal), changed, []⟩
  | .ok answer => changed.saveTournament trouble answer

/-- Does one verb and saves the tournament. -/
def run (o : Office) (trouble : Trouble) (draw : Draw) (verb : Verb) : Outcome Answer :=
  o.runAll trouble draw [verb]

end Office
end TournamentDesk
