import TournamentDesk.Text.LetterData
import TournamentDesk.Text.LowerCase

/-!
# Letters and numbers

The characters that make up words: letters and numbers of all scripts.
-/

namespace TournamentDesk
namespace Text

/-- Letters and numbers of all scripts. -/
def isAlphanumeric (c : Char) : Bool :=
  c.isAlphanum || inRanges alphanumericRanges c.toNat

end Text
end TournamentDesk
