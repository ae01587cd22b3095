import TournamentDesk.Decimal.Shortest

/-!
# Writing doubles

Digits are laid out with a decimal point up to sixteen places before it and down to four zeros behind
it, and with an exponent otherwise, which always has its sign. A whole number in positional writing
keeps `.0`, so that it reads back as a double.
-/

namespace TournamentDesk
namespace Decimal

/-- Where the layout of digits turns from positional to exponential. -/
structure Layout where
  /-- The most places before the point in positional writing. -/
  mostWhole : Int
  /-- The most zeros between the point and the first digit in positional writing. -/
  mostZeros : Int

/-- Doubles in records: at most sixteen places before the point and four zeros behind it. -/
def recordLayout : Layout :=
  ⟨16, 4⟩

/-- Digits with the point after the first `n` of them. -/
def pointAfter (n : Nat) (ds : List Char) : List Char :=
  ds.take n ++ '.' :: ds.drop n

def intText (i : Int) : List Char :=
  (toString i).toList

/-- The exponent that follows the digits: `e`, its sign, and its size without leading zeros. -/
def exponentText (e : Int) : List Char :=
  'e' :: (if e < 0 then '-' else '+') :: Nat.toDigits 10 e.natAbs

/-- Digits written out. -/
def Digits.text (layout : Layout) (d : Digits) : List Char :=
  let ds := Nat.toDigits 10 d.digits
  let places := ds.length + d.exponent
  if 0 ≤ d.exponent && places ≤ layout.mostWhole then
    ds ++ List.replicate d.exponent.toNat '0' ++ ['.', '0']
  else if 0 < places && places ≤ layout.mostWhole then
    pointAfter places.toNat ds
  else if places ≤ 0 && -layout.mostZeros ≤ places then
    ['0', '.'] ++ List.replicate (-places).toNat '0' ++ ds
  else
    (if ds.length = 1 then ds else pointAfter 1 ds) ++ exponentText (places - 1)

/-- A double in the fewest digits that read back as it, or `none` for an infinity or a NaN. -/
def text? (x : Float) : Option (List Char) :=
  (Binary.ofBits? x.toBits).map fun v =>
    (if isNegative x.toBits then ['-'] else []) ++
      (if v.m = 0 then ['0', '.', '0'] else v.shortest.text recordLayout)

end Decimal
end TournamentDesk
