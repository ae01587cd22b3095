import TournamentDesk.Swiss.Basic

/-!
# The search for a pairing

A field of players is paired in its order: the first player meets the earliest opponent it may meet
for which the rest can be paired too. The search backtracks, gives up a field in which some player
has nobody left to meet, and spends one unit of a budget on each opponent it tries. Once the budget is
spent, the search ends without an answer.
-/

namespace TournamentDesk
namespace Swiss

/-- A rule on who may meet whom. -/
abbrev Rule := PlayerId → PlayerId → Bool

/-- What a search comes to: the tables, if it found them, and the budget that is left. -/
structure Outcome where
  /-- The tables, or `none` without an answer. -/
  tables : Option (List Table)
  /-- The budget that is left. -/
  left : Nat
deriving DecidableEq, Repr

/-- Whether some player of a field may meet nobody else in it. -/
def hasStranded (mayMeet : Rule) (field : List PlayerId) : Bool :=
  field.any fun a => !field.any fun b => a ≠ b && mayMeet a b

/-- Tries the opponents in order for the player `first`, those passed over being kept in reverse. The
rest of the field is paired by `pair`. -/
def tryOpponents (mayMeet : Rule) (pair : List PlayerId → Nat → Outcome) (first : PlayerId) :
    (passed opponents : List PlayerId) → (budget : Nat) → Outcome
  | _, [], budget => ⟨none, budget⟩
  | passed, b :: rest, budget =>
    if mayMeet first b then
      match budget with
      | 0 => ⟨none, 0⟩
      | budget + 1 =>
        match pair (passed.reverse ++ rest) budget with
        | ⟨some tables, left⟩ => ⟨some (Table.fresh first b :: tables), left⟩
        | ⟨none, left⟩ => tryOpponents mayMeet pair first (b :: passed) rest left
    else tryOpponents mayMeet pair first (b :: passed) rest budget

/-- Pairs a field of at most so many players. When `prune` is set, a field with a stranded player is
given up at once. -/
def pairWithin (mayMeet : Rule) (prune : Bool) : (size : Nat) → List PlayerId → Nat → Outcome
  | _, [], budget => ⟨some [], budget⟩
  | 0, _ :: _, budget => ⟨none, budget⟩
  | size + 1, first :: rest, budget =>
    if prune && hasStranded mayMeet (first :: rest) then ⟨none, budget⟩
    else tryOpponents mayMeet (pairWithin mayMeet prune size) first [] rest budget

/-- Pairs a field. Without rematches only players who have not met may meet. -/
def pairUp (haveMet : Rule) (allowRematch : Bool) (field : List PlayerId) (budget : Nat) : Outcome :=
  pairWithin (fun a b => allowRematch || !haveMet a b) (!allowRematch) field.length field budget

/-- Pairs a field from which each of the given players in turn has the bye, until one of the fields is
paired. The fields share the budget. -/
def pairWithBye (haveMet : Rule) (allowRematch : Bool) (field : List PlayerId) :
    (byes : List PlayerId) → (budget : Nat) → Outcome
  | [], budget => ⟨none, budget⟩
  | bye :: rest, budget =>
    match pairUp haveMet allowRematch (field.filter fun id => id ≠ bye) budget with
    | ⟨some tables, left⟩ => ⟨some (tables ++ [Table.bye bye]), left⟩
    | ⟨none, left⟩ => pairWithBye haveMet allowRematch field rest left

end Swiss
end TournamentDesk
