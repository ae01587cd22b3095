/-!
# Numerals

What a written number stands for. A whole number that fits 64 bits is exact. Any other number is a
double, computed from the digits that fit 64 bits and a power of ten by one multiplication or
division, so it may differ from the nearest double in its last places.
-/

namespace TournamentDesk
namespace Decimal

/-- The parts of a written number. -/
structure Literal where
  negative : Bool
  whole : List Nat
  fraction : Option (List Nat)
  exponent : Option Int
deriving DecidableEq, Repr

/-- What a written number stands for. -/
inductive Numeral where
  /-- A whole number of at most 64 bits. -/
  | int (i : Int)
  | float (x : Float)
  /-- A number too large for a double. -/
  | excessive

/-- The largest significand that is kept: the greatest number of 64 bits. -/
def significandLimit : Nat :=
  18446744073709551615

/-- The largest whole number that is exact behind a minus sign: the magnitude of the least number of
64 bits with a sign. -/
def negativeLimit : Nat :=
  9223372036854775808

/-- Appends digits to a significand as long as it stays within the limit; the second part counts the
digits taken. -/
def gather (significand : Nat) : List Nat → Nat × Nat
  | [] => (significand, 0)
  | d :: ds =>
    if significand * 10 + d ≤ significandLimit then
      let r := gather (significand * 10 + d) ds
      (r.1, r.2 + 1)
    else (significand, 0)

/-- The largest power of ten that is a double. -/
def powerLimit : Nat :=
  308

/-- A power of ten with a natural exponent, as a double. -/
def power (n : Nat) : Float :=
  Float.ofScientific 1 false n

/-- A double times a power of ten, or `none` when it is too large. A large negative exponent is
worked off in steps of the largest power. -/
def scale? (x : Float) (exponent : Int) : Option Float :=
  if 0 ≤ exponent then
    if exponent ≤ powerLimit then
      let y := x * power exponent.toNat
      if y.isInf then none else some y
    else if x == 0.0 then some x
    else none
  else if -exponent ≤ powerLimit then some (x / power (-exponent).toNat)
  else if x == 0.0 then some x
  else scale? (x / power powerLimit) (exponent + powerLimit)
termination_by exponent.natAbs
decreasing_by
  unfold powerLimit at *
  omega

/-- The double that a significand, a power of ten and a sign stand for. -/
def assemble (negative : Bool) (significand : Nat) (exponent : Int) : Numeral :=
  match scale? (Float.ofNat significand) exponent with
  | some x => .float (if negative then -x else x)
  | none => .excessive

def Literal.value (l : Literal) : Numeral :=
  let whole := gather 0 l.whole
  let fraction := gather whole.1 (l.fraction.getD [])
  let shift : Int := (l.whole.length - whole.2 : Nat)
  let exact := l.fraction.isNone && l.exponent.isNone && whole.2 == l.whole.length
  if exact && !l.negative then .int whole.1
  else if exact && 0 < whole.1 && whole.1 ≤ negativeLimit then .int (-whole.1)
  else if exact then .float (-(Float.ofNat whole.1))
  else assemble l.negative fraction.1 (shift - fraction.2 + l.exponent.getD 0)

end Decimal
end TournamentDesk
