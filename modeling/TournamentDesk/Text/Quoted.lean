import TournamentDesk.Text.LowerCase
import TournamentDesk.Text.PrintData

/-!
# Quoted names

Messages show a name between quotation marks, with everything in it made visible: quotation marks
and backslashes are escaped, a character that leaves no mark of its own, or that is drawn on its
neighbour, is written as its code point in hexadecimal.
-/

namespace TournamentDesk
namespace Text

/-- Characters that leave no mark of their own. -/
def isHidden (c : Char) : Bool :=
  c.toNat < 0x20 || c.toNat == 0x7F || inRanges hiddenRanges c.toNat

/-- Characters that are drawn on the character before them. -/
def isExtending (c : Char) : Bool :=
  inRanges extendingRanges c.toNat

/-- The digits of a number in base 16, in lower case and without leading zeros. -/
def hexDigits (n : Nat) : List Char :=
  Nat.toDigits 16 n

/-- How one character of a quoted name is written. -/
def quotedChar (c : Char) : List Char :=
  if c = Char.ofNat 0 then ['\\', '0']
  else if c = '\t' then ['\\', 't']
  else if c = '\r' then ['\\', 'r']
  else if c = '\n' then ['\\', 'n']
  else if c = '\\' then ['\\', '\\']
  else if c = '"' then ['\\', '"']
  else if isExtending c || isHidden c then ['\\', 'u', '{'] ++ hexDigits c.toNat ++ ['}']
  else [c]

/-- A name between quotation marks, with everything in it made visible. -/
def quoted (s : String) : String :=
  String.ofList ('"' :: s.toList.flatMap quotedChar ++ ['"'])

end Text
end TournamentDesk
