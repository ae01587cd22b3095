/-!
# Scanning texts

A scan takes something out of the front of a text and leaves the rest, or takes nothing.
-/

namespace TournamentDesk
namespace Text

/-- Takes something out of the front of a text. -/
abbrev Scan (α : Type) := List Char → Option (α × List Char)

def expect (c : Char) : Scan Unit
  | [] => none
  | d :: s => if d = c then some ((), s) else none

/-- The number that decimal digits stand for. -/
def numberOf (ds : List Char) : Nat :=
  ds.foldl (fun n c => n * 10 + (c.toNat - '0'.toNat)) 0

/-- All decimal digits from here on, at least one. -/
def wholeNumber : Scan Nat := fun s =>
  let ds := s.takeWhile Char.isDigit
  if ds.isEmpty then none else some (numberOf ds, s.dropWhile Char.isDigit)

/-- The value of a hexadecimal digit, in either case. -/
def hexValue? (c : Char) : Option Nat :=
  if c.isDigit then some (c.toNat - '0'.toNat)
  else if 'a' ≤ c && c ≤ 'f' then some (c.toNat - 'a'.toNat + 10)
  else if 'A' ≤ c && c ≤ 'F' then some (c.toNat - 'A'.toNat + 10)
  else none

end Text
end TournamentDesk
