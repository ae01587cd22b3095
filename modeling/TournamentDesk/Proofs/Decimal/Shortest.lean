import Mathlib.Tactic.Common
import Mathlib.Tactic.Ring
import TournamentDesk.Decimal.Layout

/-!
# Shortest digits

The search for the shortest digits of a double comes back with digits whether it ends early or runs
out of steps: they are not zero unless the double is, and they stay below one with it.

* `shortest_ne_zero`: a double other than zero has digits other than zero.
* `shortest_lt_one`: digits of a double below one stand for a number below one.
-/

namespace TournamentDesk
namespace Decimal

/-! ## Digits that are not zero -/

theorem twoTo_pos (n : Nat) : 0 < twoTo n :=
  Nat.pow_pos (by decide)

theorem tenTo_pos (n : Nat) : 0 < tenTo n :=
  Nat.pow_pos (by decide)

/-- Zero does not round to another double. -/
theorem covers_zero
    {v : Binary}
    (hm : v.m ≠ 0)
    (k : Int) :
    v.covers k 0 = false := by
  have hunit : 0 < twoTo v.q.toNat * tenTo (-k).toNat :=
    Nat.mul_pos (twoTo_pos _) (tenTo_pos _)
  have hlow : 0 < (4 * v.m - if v.atStep then 1 else 2) *
      (twoTo v.q.toNat * tenTo (-k).toNat) := by
    refine Nat.mul_pos ?_ hunit
    split <;> omega
  simp only [Binary.covers, Nat.mul_zero, Nat.zero_mul]
  split
  · rw [decide_eq_false (Nat.not_le.2 hlow)]
    rfl
  · simp

/-- What is found on a grid rounds to the double. -/
theorem onGrid?_covers
    {v : Binary}
    {k : Int}
    {n : Nat}
    (h : v.onGrid? k = some n) :
    v.covers k n = true := by
  unfold Binary.onGrid? at h
  simp only at h
  split at h
  · next hbelow habove =>
    rw [← Option.some.inj h]
    split
    · exact habove
    · exact hbelow
  · next hbelow _ =>
    rw [← Option.some.inj h]
    exact hbelow
  · next _ habove =>
    rw [← Option.some.inj h]
    exact habove
  · cases h

/-- A double whose bits are read has a significand of 53 bits and an exponent in range. -/
structure InFormat (v : Binary) : Prop where
  /-- The significand has at most 53 bits. -/
  bits : v.m < 2 ^ 53
  /-- The exponent of two is not too small. -/
  low : -1074 ≤ v.q
  /-- The exponent of two is not too large. -/
  high : v.q ≤ 971

theorem ofBits?_inFormat
    {bits : UInt64}
    {v : Binary}
    (h : Binary.ofBits? bits = some v) :
    InFormat v := by
  have hfraction : bits.toNat % twoTo 52 < 2 ^ 52 := Nat.mod_lt _ (by decide)
  have hexponent : bits.toNat / twoTo 52 % twoTo 11 < 2 ^ 11 := Nat.mod_lt _ (by decide)
  have htwo : twoTo 52 = 2 ^ 52 := rfl
  unfold Binary.ofBits? at h
  simp only at h
  split at h
  · cases h
  · split at h
    · cases h
      refine ⟨?_, ?_, ?_⟩ <;> simp only <;> omega
    · cases h
      refine ⟨?_, ?_, ?_⟩ <;> simp only <;> omega

/-- Only where the unit becomes two is the next smaller double half a unit away. -/
theorem ofBits?_atStep
    {bits : UInt64}
    {v : Binary}
    (h : Binary.ofBits? bits = some v)
    (hstep : v.atStep = true) :
    v.m = 2 ^ 52 := by
  unfold Binary.ofBits? at h
  simp only at h
  split at h
  · cases h
  · split at h
    · cases h
      cases hstep
    · cases h
      simp only [Bool.and_eq_true, decide_eq_true_eq] at hstep
      rw [hstep.1]
      rfl

/-- The power of ten at which the search for digits gives up is at most the double. -/
theorem tenTo_le_at_last
    {v : Binary}
    (hm : v.m ≠ 0)
    (hv : InFormat v) :
    4 * (v.scaled (v.topExponent - 40)).denominator ≤ (v.scaled (v.topExponent - 40)).numerator := by
  have hlog : 2 ^ v.m.log2 ≤ v.m := Nat.log2_self_le hm
  have hlog53 : v.m.log2 < 53 := (Nat.log2_lt hm).2 hv.bits
  obtain ⟨-, hlow, hhigh⟩ := hv
  obtain ⟨k, hk⟩ : ∃ k, k = v.topExponent - 40 := ⟨_, rfl⟩
  have htop := hk
  unfold Binary.topExponent at htop
  simp only at htop
  rw [← hk]
  -- everything as powers of two: ten is at least 2 ^ 3, and 10 ^ 3 at most 2 ^ 10
  have hten : ∀ n : Nat, 2 ^ (3 * n) ≤ 10 ^ n := by
    intro n
    rw [Nat.pow_mul]
    exact Nat.pow_le_pow_left (by decide) n
  have hthousand : ∀ n : Nat, 10 ^ n ≤ 2 ^ (10 * ((n + 2) / 3)) := by
    intro n
    calc
      10 ^ n ≤ 10 ^ (3 * ((n + 2) / 3)) := Nat.pow_le_pow_right (by decide) (by omega)
      _ = (10 ^ 3) ^ ((n + 2) / 3) := by rw [Nat.pow_mul]
      _ ≤ (2 ^ 10) ^ ((n + 2) / 3) := Nat.pow_le_pow_left (by decide) _
      _ = 2 ^ (10 * ((n + 2) / 3)) := by rw [Nat.pow_mul]
  have hgoal : 2 ^ (-v.q).toNat * 10 ^ k.toNat ≤ 2 ^ v.m.log2 * 2 ^ v.q.toNat * 10 ^ (-k).toNat := by
    calc
      2 ^ (-v.q).toNat * 10 ^ k.toNat
          ≤ 2 ^ (-v.q).toNat * 2 ^ (10 * ((k.toNat + 2) / 3)) :=
            Nat.mul_le_mul_left _ (hthousand _)
      _ = 2 ^ ((-v.q).toNat + 10 * ((k.toNat + 2) / 3)) := by rw [Nat.pow_add]
      _ ≤ 2 ^ (v.m.log2 + v.q.toNat + 3 * (-k).toNat) := by
            refine Nat.pow_le_pow_right (by decide) ?_
            split at htop <;> omega
      _ = 2 ^ v.m.log2 * 2 ^ v.q.toNat * 2 ^ (3 * (-k).toNat) := by rw [Nat.pow_add, Nat.pow_add]
      _ ≤ 2 ^ v.m.log2 * 2 ^ v.q.toNat * 10 ^ (-k).toNat := Nat.mul_le_mul_left _ (hten _)
  simp only [Binary.scaled, twoTo, tenTo, Nat.pow_eq]
  calc
    4 * (2 ^ (-v.q).toNat * 10 ^ k.toNat)
        ≤ 4 * (2 ^ v.m.log2 * 2 ^ v.q.toNat * 10 ^ (-k).toNat) := Nat.mul_le_mul_left 4 hgoal
    _ ≤ 4 * (v.m * 2 ^ v.q.toNat * 10 ^ (-k).toNat) := by gcongr
    _ = 4 * v.m * 2 ^ v.q.toNat * 10 ^ (-k).toNat := by ring

theorem descend_ne_zero
    {v : Binary}
    (hm : v.m ≠ 0)
    (hv : InFormat v)
    (steps : Nat)
    {k : Int}
    (hk : k = v.topExponent - 40 + steps) :
    (v.descend steps k).digits ≠ 0 := by
  induction steps generalizing k with
  | zero =>
      have hlast := tenTo_le_at_last hm hv
      have hk : k = v.topExponent - 40 := by simpa using hk
      rw [hk, Binary.descend]
      have hpos : 0 < 4 * (v.scaled (v.topExponent - 40)).denominator :=
        Nat.mul_pos (by decide) (Nat.mul_pos (twoTo_pos _) (tenTo_pos _))
      exact Nat.pos_iff_ne_zero.1 (Nat.div_pos hlast hpos)
  | succ steps ih =>
      rw [Binary.descend]
      split
      · next n hn =>
        rintro rfl
        have hcovers := onGrid?_covers hn
        rw [covers_zero hm] at hcovers
        cases hcovers
      · refine ih ?_
        rw [hk]
        omega

/-- A double other than zero has digits other than zero. -/
theorem shortest_ne_zero
    {v : Binary}
    (hm : v.m ≠ 0)
    (hv : InFormat v) :
    v.shortest.digits ≠ 0 :=
  descend_ne_zero hm hv 40 (by omega)

/-! ## The upper end -/

theorem covers_le_upper
    {v : Binary}
    {k : Int}
    {n : Nat}
    (h : v.covers k n = true) :
    4 * n * (v.scaled k).denominator ≤
      (4 * v.m + 2) * (twoTo v.q.toNat * tenTo (-k).toNat) := by
  unfold Binary.covers at h
  simp only at h
  split at h
  · exact of_decide_eq_true (Bool.and_eq_true_iff.1 h).2
  · exact Nat.le_of_lt (of_decide_eq_true (Bool.and_eq_true_iff.1 h).2)

/-- Digits that are found, or left when the search gives up, are at most the upper end of what rounds to
the double. -/
theorem descend_le_upper
    (v : Binary)
    (steps : Nat)
    (k : Int) :
    4 * (v.descend steps k).digits * (v.scaled (v.descend steps k).exponent).denominator ≤
      (4 * v.m + 2) * (twoTo v.q.toNat * tenTo (-(v.descend steps k).exponent).toNat) := by
  induction steps generalizing k with
  | zero =>
      rw [Binary.descend]
      have hfloor := Nat.div_mul_le_self (v.scaled k).numerator (4 * (v.scaled k).denominator)
      calc
        4 * ((v.scaled k).numerator / (4 * (v.scaled k).denominator)) * (v.scaled k).denominator
            = (v.scaled k).numerator / (4 * (v.scaled k).denominator) *
                (4 * (v.scaled k).denominator) := by ring
        _ ≤ (v.scaled k).numerator := hfloor
        _ = 4 * v.m * (twoTo v.q.toNat * tenTo (-k).toNat) := Nat.mul_assoc _ _ _
        _ ≤ (4 * v.m + 2) * (twoTo v.q.toNat * tenTo (-k).toNat) :=
          Nat.mul_le_mul_right _ (Nat.le_add_right _ 2)
  | succ steps ih =>
      rw [Binary.descend]
      split
      · next n hn => exact covers_le_upper (onGrid?_covers hn)
      · exact ih (k - 1)

/-! ## Digits of doubles below one -/

/-- Digits that stand for a number below one. -/
structure Digits.BelowOne (d : Digits) : Prop where
  /-- The power of ten is not positive. -/
  exponent : d.exponent ≤ 0
  /-- There are fewer than the power of ten takes off. -/
  digits : d.digits < 10 ^ (-d.exponent).toNat

/-- A magnitude below one. -/
structure Binary.BelowOne (v : Binary) : Prop where
  /-- The power of two is not positive. -/
  exponent : v.q ≤ 0
  /-- The significand is smaller than the power of two takes off. -/
  significand : v.m < 2 ^ (-v.q).toNat

theorem lt_of_le_upper
    {v : Binary}
    (hv : v.BelowOne)
    {k : Int}
    {n : Nat}
    (h : 4 * n * (v.scaled k).denominator ≤
      (4 * v.m + 2) * (twoTo v.q.toNat * tenTo (-k).toNat)) :
    n * 10 ^ k.toNat < 10 ^ (-k).toNat := by
  have hq : twoTo v.q.toNat = 1 := by
    rw [Int.toNat_of_nonpos hv.exponent]
    rfl
  have hm : 4 * v.m + 2 < 4 * twoTo (-v.q).toNat := by
    have := hv.significand
    change 4 * v.m + 2 < 4 * 2 ^ (-v.q).toNat
    omega
  rw [hq, Nat.one_mul] at h
  refine lt_of_mul_lt_mul_left ?_ (Nat.zero_le (4 * twoTo (-v.q).toNat))
  calc
    4 * twoTo (-v.q).toNat * (n * 10 ^ k.toNat)
        = 4 * n * (v.scaled k).denominator := by
          simp only [Binary.scaled, tenTo, Nat.pow_eq]
          ring
    _ ≤ (4 * v.m + 2) * tenTo (-k).toNat := h
    _ < 4 * twoTo (-v.q).toNat * 10 ^ (-k).toNat := Nat.mul_lt_mul_of_pos_right hm (tenTo_pos _)

theorem descend_lt
    {v : Binary}
    (hv : v.BelowOne)
    (steps : Nat)
    (k : Int) :
    (v.descend steps k).digits * 10 ^ (v.descend steps k).exponent.toNat <
      10 ^ (-(v.descend steps k).exponent).toNat :=
  lt_of_le_upper hv (descend_le_upper v steps k)

/-- The digits of a double below one stand for a number below one. -/
theorem shortest_lt_one
    {v : Binary}
    (hm : v.m ≠ 0)
    (hformat : InFormat v)
    (hv : v.BelowOne) :
    v.shortest.BelowOne := by
  have hne := shortest_ne_zero hm hformat
  have hlt := descend_lt hv 40 v.topExponent
  change v.shortest.digits * 10 ^ v.shortest.exponent.toNat < 10 ^ (-v.shortest.exponent).toNat at hlt
  have hexponent : v.shortest.exponent ≤ 0 := by
    by_contra hpos
    rw [Int.toNat_of_nonpos (show -v.shortest.exponent ≤ 0 by omega), pow_zero,
      Nat.lt_one_iff, Nat.mul_eq_zero] at hlt
    rcases hlt with hzero | hzero
    · exact hne hzero
    · exact absurd hzero (Nat.ne_of_gt (Nat.pow_pos (by decide)))
  refine ⟨hexponent, ?_⟩
  rw [Int.toNat_of_nonpos hexponent, pow_zero, Nat.mul_one] at hlt
  exact hlt

end Decimal
end TournamentDesk
