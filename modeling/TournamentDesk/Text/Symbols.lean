/-!
# Octets as text

A record or a request body arrives as octets. It is read as a list of symbols, one for each character
in UTF-8 and one for each stretch of octets that is no character, so that a reader can go on behind a
damaged place.
-/

namespace TournamentDesk
namespace Text

/-- A place in a text of octets: a character, or `none` where the octets are no character. -/
abbrev Symbol := Option Char

/-- The octet at a place, or 0 behind the end. -/
def octetAt (b : ByteArray) (i : Nat) : Nat :=
  if h : i < b.size then b[i].toNat else 0

def octetIn (b : ByteArray) (i low high : Nat) : Bool :=
  low ≤ octetAt b i && octetAt b i ≤ high

/-- Whether the two octets from `i` on can begin a character of three or more octets. -/
def beginsLongChar (b : ByteArray) (i : Nat) : Bool :=
  match octetAt b i with
  | 0xE0 => octetIn b (i + 1) 0xA0 0xBF
  | 0xED => octetIn b (i + 1) 0x80 0x9F
  | 0xF0 => octetIn b (i + 1) 0x90 0xBF
  | 0xF4 => octetIn b (i + 1) 0x80 0x8F
  | _ => octetIn b i 0xE1 0xF3 && octetIn b (i + 1) 0x80 0xBF

/-- How many octets, from a place where no character stands, could have begun one. -/
def gapSize (b : ByteArray) (i : Nat) : Nat :=
  if beginsLongChar b i then
    if octetIn b i 0xF0 0xF4 && octetIn b (i + 2) 0x80 0xBF then 3 else 2
  else 1

theorem gapSize_pos (b : ByteArray) (i : Nat) : 0 < gapSize b i := by
  unfold gapSize
  split
  · split <;> decide
  · decide

/-- The symbols from the octet at `i` on. -/
def symbolsFrom (b : ByteArray) (i : Nat) : List Symbol :=
  if i < b.size then
    match b.utf8DecodeChar? i with
    | some c => some c :: symbolsFrom b (i + c.utf8Size)
    | none => none :: symbolsFrom b (i + gapSize b i)
  else []
termination_by b.size - i
decreasing_by
  · have := c.utf8Size_pos
    omega
  · have := gapSize_pos b i
    omega

/-- The symbols of a text of octets. -/
def symbols (b : ByteArray) : List Symbol :=
  symbolsFrom b 0

/-- The octets as readable text, with U+FFFD at each damaged place. -/
def readable (b : ByteArray) : String :=
  String.ofList ((symbols b).map fun s => s.getD (Char.ofNat 0xFFFD))

end Text
end TournamentDesk
