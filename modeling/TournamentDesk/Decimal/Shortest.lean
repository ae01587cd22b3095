/-!
# Shortest decimal digits

A double stands for every real number that rounds to it. Its shortest digits are those of the
multiple of the largest power of ten that lies in that interval; of two such multiples the nearer one
is taken, and the even one of two that are equally near.

All of it is exact arithmetic on natural numbers: a finite positive double is `m * 2 ^ q`, and the
interval reaches half a unit of its last binary place to either side.
-/

namespace TournamentDesk
namespace Decimal

def twoTo (n : Nat) : Nat :=
  Nat.pow 2 n

def tenTo (n : Nat) : Nat :=
  Nat.pow 10 n

/-- A finite nonnegative double as `m * 2 ^ q`. -/
structure Binary where
  /-- The significand. -/
  m : Nat
  /-- The exponent of two. -/
  q : Int
  /-- Whether the next smaller double is only half a unit away. -/
  atStep : Bool
deriving DecidableEq, Repr

/-- The magnitude of a double given by its bits, or `none` for an infinity or a NaN. -/
def Binary.ofBits? (bits : UInt64) : Option Binary :=
  let exponent : Nat := bits.toNat / twoTo 52 % twoTo 11
  let fraction : Nat := bits.toNat % twoTo 52
  if exponent = 2047 then none
  else if exponent = 0 then some ⟨fraction, -1074, false⟩
  else some ⟨twoTo 52 + fraction, (exponent : Int) - 1075, fraction = 0 && 1 < exponent⟩

/-- Whether a double given by its bits carries a minus sign. -/
def isNegative (bits : UInt64) : Bool :=
  bits.toNat / twoTo 63 = 1

/-- The digits of a number in base ten, as the number `digits * 10 ^ exponent`. -/
structure Digits where
  /-- The digits, read as one natural number. -/
  digits : Nat
  exponent : Int
deriving DecidableEq, Repr

/-- A fraction `numerator / denominator` of natural numbers. -/
structure Ratio where
  numerator : Nat
  denominator : Nat

/-- Four times the double, in units of `10 ^ k`, as a fraction. -/
def Binary.scaled (v : Binary) (k : Int) : Ratio :=
  ⟨4 * v.m * twoTo v.q.toNat * tenTo (-k).toNat, twoTo (-v.q).toNat * tenTo k.toNat⟩

/-- Whether `n * 10 ^ k` rounds to the double: it is at most half a unit of the last binary place
away, and the ends belong to the interval when the significand is even. -/
def Binary.covers (v : Binary) (k : Int) (n : Nat) : Bool :=
  let unit := twoTo v.q.toNat * tenTo (-k).toNat
  let point := 4 * n * (v.scaled k).denominator
  let low := (4 * v.m - if v.atStep then 1 else 2) * unit
  let high := (4 * v.m + 2) * unit
  if v.m % 2 = 0 then low ≤ point && point ≤ high else low < point && point < high

/-- The multiple of `10 ^ k` that rounds to the double and is nearest to it, if there is one. -/
def Binary.onGrid? (v : Binary) (k : Int) : Option Nat :=
  let r := v.scaled k
  let below := r.numerator / (4 * r.denominator)
  let left := r.numerator - below * (4 * r.denominator)
  let nearerAbove := 2 * r.denominator < left || (left = 2 * r.denominator && below % 2 = 1)
  match v.covers k below, v.covers k (below + 1) with
  | true, true => some (if nearerAbove then below + 1 else below)
  | true, false => some below
  | false, true => some (below + 1)
  | false, false => none

/-- A power of ten above the double: a bound on its exponent of two, times the logarithm of two. -/
def Binary.topExponent (v : Binary) : Int :=
  let e := Nat.log2 v.m + v.q + 1
  if 0 ≤ e then e * 31 / 100 + 1 else e * 30 / 100 + 1

/-- The first power of ten from `k` downwards that has a multiple on its grid. -/
def Binary.descend (v : Binary) : Nat → Int → Digits
  | 0, k => ⟨(v.scaled k).numerator / (4 * (v.scaled k).denominator), k⟩
  | steps + 1, k =>
    match v.onGrid? k with
    | some n => ⟨n, k⟩
    | none => v.descend steps (k - 1)

/-- The shortest digits that read back as the double, which is not zero. -/
def Binary.shortest (v : Binary) : Digits :=
  v.descend 40 v.topExponent

end Decimal
end TournamentDesk
