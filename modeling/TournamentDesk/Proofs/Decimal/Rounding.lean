import Mathlib.Algebra.Order.Field.Power
import Mathlib.Tactic.Linarith
import Mathlib.Tactic.NormNum
import Mathlib.Tactic.Positivity
import Mathlib.Tactic.Ring
import TournamentDesk.Proofs.Decimal.Packing

/-!
# Rounding to doubles

The exact result of an operation is rounded to a double next to it: a rounded number never passes a
number that a double can have. Which of its two neighbours is taken matters in one place only, where
the unit becomes two.

* `Rounds`: a rounded number stays on its side of each number that a double can have.
* `pack_roundWithAccuracy`: the outcome of rounding, packed into a double.
-/

namespace TournamentDesk
namespace Decimal

open Float.Model (Format UnpackedFloat)
open Float.Model.UnpackedFloat

/-! ## Numbers that doubles can have -/

/-- A number that a double can have, if there were no greatest exponent. -/
def OnGrid (y : ℚ) : Prop :=
  ∃ (k : Nat) (f : Int), k < 2 ^ 53 ∧ -1074 ≤ f ∧ y = k * 2 ^ f

/-- One number is another one rounded, up or down. -/
structure Rounds (v w : ℚ) : Prop where
  /-- No number of the grid is passed from below. -/
  le : ∀ y, OnGrid y → v ≤ y → w ≤ y
  /-- No number of the grid is passed from above. -/
  ge : ∀ y, OnGrid y → y ≤ v → y ≤ w
  /-- Where the unit becomes two, one more does not count. -/
  saturates : v ≤ 2 ^ 53 + 1 → w ≤ 2 ^ 53

/-- The greatest number of a double. -/
def greatest : ℚ :=
  (2 ^ 53 - 1 : Nat) * 2 ^ (971 : Int)

/-- A double is not negative and has a value. -/
def HasValue (x : Float) (w : ℚ) : Prop :=
  (x.toModel.unpack = .zero .positive ∧ w = 0) ∨
    ∃ m e hpos, x.toModel.unpack = .finite .positive m e hpos ∧ w = m * 2 ^ e

theorem onGrid_nat
    {n : Nat}
    (h : n ≤ 2 ^ 53) :
    OnGrid n := by
  rcases Nat.lt_or_eq_of_le h with hlt | heq
  · exact ⟨n, 0, hlt, by decide, by simp⟩
  · refine ⟨2 ^ 52, 1, by decide, by decide, ?_⟩
    rw [heq]
    norm_num

theorem onGrid_greatest : OnGrid greatest :=
  ⟨2 ^ 53 - 1, 971, by decide, by decide, rfl⟩

theorem HasValue.onGrid
    {x : Float}
    {w : ℚ}
    (h : HasValue x w) :
    OnGrid w := by
  rcases h with ⟨-, rfl⟩ | ⟨m, e, hpos, hunpack, rfl⟩
  · exact ⟨0, 0, by decide, by decide, by simp⟩
  · have hcanonical := canonical_of_unpack hunpack
    exact ⟨m, e, hcanonical.bits, hcanonical.low, rfl⟩

theorem HasValue.nonneg
    {x : Float}
    {w : ℚ}
    (h : HasValue x w) :
    0 ≤ w := by
  rcases h with ⟨-, rfl⟩ | ⟨m, e, -, -, rfl⟩
  · exact le_refl 0
  · positivity

/-! ## Cutting off bits -/

/-- A significand with its two residual bits at an exponent describes a number. -/
structure Approximates (em : ExtendedMantissa) (e : Int) (v : ℚ) : Prop where
  /-- The significand is not above the number. -/
  low : em.mantissa * 2 ^ e ≤ v
  /-- The next significand is above it. -/
  high : v < (em.mantissa + 1) * 2 ^ e
  /-- With a residual bit it is below the number. -/
  residue : (em.roundBit || em.stickyBit) = true → em.mantissa * 2 ^ e < v
  /-- With both of them the number is in the upper half. -/
  upper : (em.roundBit && em.stickyBit) = true → (em.mantissa + 1 / 2) * 2 ^ e < v

theorem two_zpow_pos (e : Int) : (0 : ℚ) < 2 ^ e :=
  zpow_pos (by norm_num) e

theorem two_zpow_succ (e : Int) : (2 : ℚ) ^ (e + 1) = 2 * 2 ^ e := by
  rw [zpow_add_one₀ (by norm_num)]
  ring

theorem Approximates.shiftRightOne
    {em : ExtendedMantissa}
    {e : Int}
    {v : ℚ}
    (h : Approximates em e v) :
    Approximates em.shiftRightOne (e + 1) v := by
  have hunit := two_zpow_pos e
  have hdivision : (em.mantissa : ℚ) = 2 * (em.mantissa / 2 : Nat) + (em.mantissa % 2 : Nat) := by
    exact_mod_cast (Nat.div_add_mod em.mantissa 2).symm
  have hparity : ((em.mantissa % 2 : Nat) : ℚ) ≤ 1 := by
    exact_mod_cast Nat.le_of_lt_succ (Nat.mod_lt em.mantissa (by decide))
  have hnonneg : (0 : ℚ) ≤ (em.mantissa % 2 : Nat) := by positivity
  have hlow := h.low
  have hhigh := h.high
  rw [hdivision] at hlow hhigh
  constructor
  · change ((em.mantissa / 2 : Nat) : ℚ) * 2 ^ (e + 1) ≤ v
    rw [two_zpow_succ]
    nlinarith
  · change v < ((em.mantissa / 2 : Nat) + 1) * 2 ^ (e + 1)
    rw [two_zpow_succ]
    nlinarith
  · intro hbits
    change (em.mantissa % 2 != 0 || (em.roundBit || em.stickyBit)) = true at hbits
    change ((em.mantissa / 2 : Nat) : ℚ) * 2 ^ (e + 1) < v
    rw [two_zpow_succ]
    rcases Bool.or_eq_true_iff.1 hbits with hodd | hresidue
    · have hodd : em.mantissa % 2 = 1 := by
        have : em.mantissa % 2 ≠ 0 := by simpa using hodd
        omega
      rw [hodd, Nat.cast_one] at hlow
      nlinarith
    · have hstrict := h.residue hresidue
      rw [hdivision] at hstrict
      nlinarith
  · intro hbits
    change (em.mantissa % 2 != 0 && (em.roundBit || em.stickyBit)) = true at hbits
    change (((em.mantissa / 2 : Nat) : ℚ) + 1 / 2) * 2 ^ (e + 1) < v
    obtain ⟨hodd, hresidue⟩ := Bool.and_eq_true_iff.1 hbits
    have hstrict := h.residue hresidue
    have hodd : em.mantissa % 2 = 1 := by
      have : em.mantissa % 2 ≠ 0 := by simpa using hodd
      omega
    rw [hdivision, hodd, Nat.cast_one] at hstrict
    rw [two_zpow_succ]
    nlinarith

theorem shiftRight_succ
    (em : ExtendedMantissa)
    (n : Nat) :
    em >>> (n + 1) = (em >>> n).shiftRightOne :=
  rfl

theorem Approximates.shiftRight
    {em : ExtendedMantissa}
    {e : Int}
    {v : ℚ}
    (h : Approximates em e v)
    (n : Nat) :
    Approximates (em >>> n) (e + n) v := by
  induction n with
  | zero =>
      rw [Nat.cast_zero, add_zero]
      exact h
  | succ n ih =>
      rw [shiftRight_succ, Nat.cast_succ, ← add_assoc]
      exact ih.shiftRightOne

theorem mantissa_shiftRight
    (em : ExtendedMantissa)
    (n : Nat) :
    (em >>> n).mantissa = em.mantissa / 2 ^ n := by
  induction n with
  | zero => simp [HShiftRight.hShiftRight, Nat.repeat]
  | succ n ih =>
      rw [shiftRight_succ, Nat.pow_succ, ← Nat.div_div_eq_div_mul, ← ih]
      rfl

theorem mantissa_ofMantissaAndAccuracy
    (m : Nat)
    (accuracy : Accuracy) :
    (ExtendedMantissa.ofMantissaAndAccuracy m accuracy).mantissa = m := by
  rcases accuracy with _ | order
  · rfl
  · cases order <;> rfl

/-- Rounding goes up only where something was cut off. -/
theorem roundedMantissa_cases (em : ExtendedMantissa) :
    em.roundedMantissa = em.mantissa ∨
      em.roundedMantissa = em.mantissa + 1 ∧ (em.roundBit || em.stickyBit) = true := by
  obtain ⟨m, roundBit, stickyBit⟩ := em
  cases roundBit with
  | false => cases stickyBit <;> exact Or.inl rfl
  | true =>
      cases stickyBit with
      | true => exact Or.inr ⟨rfl, rfl⟩
      | false =>
          have htie : ExtendedMantissa.roundedMantissa ⟨m, true, false⟩ = m + m % 2 := rfl
          rw [htie]
          rcases Nat.mod_two_eq_zero_or_one m with heven | hodd
          · exact Or.inl (by rw [heven]; rfl)
          · exact Or.inr ⟨by rw [hodd], rfl⟩

theorem unit_eq_two
    {em : ExtendedMantissa}
    {t : Int}
    {v : ℚ}
    (h : Approximates em t v)
    (hbits : em.mantissa < 2 ^ 53)
    (hfull : 2 ^ 52 ≤ em.mantissa ∨ t = -1074)
    (hlow : 2 ^ 53 < v)
    (hhigh : v ≤ 2 ^ 53 + 1) :
    t = 1 := by
  have hunit := two_zpow_pos t
  have hpositive : 0 < t := by
    by_contra hle
    have hone : (2 : ℚ) ^ t ≤ 1 := zpow_le_one_of_nonpos₀ (by norm_num) (by omega)
    have hmantissa : (em.mantissa : ℚ) + 1 ≤ 2 ^ 53 := by exact_mod_cast hbits
    have hhigh := h.high
    nlinarith
  by_contra hne
  have hfour : (2 : ℚ) ^ (2 : Int) ≤ 2 ^ t := zpow_le_zpow_right₀ (by norm_num) (by omega)
  have hmantissa : (2 : ℚ) ^ 52 ≤ em.mantissa := by exact_mod_cast hfull.resolve_right (by omega)
  have hlow := h.low
  norm_num at hfour
  nlinarith

/-- Up to the middle behind an even significand, rounding goes down. -/
theorem Approximates.tie
    {em : ExtendedMantissa}
    {t : Int}
    {v : ℚ}
    (h : Approximates em t v)
    {j : Nat}
    (heven : j % 2 = 0)
    (hv : v ≤ (j + 1 / 2) * 2 ^ t) :
    em.roundedMantissa ≤ j := by
  have hunit := two_zpow_pos t
  have hle : em.mantissa ≤ j := by
    have hlow := lt_of_mul_lt_mul_right (lt_of_le_of_lt (h.low.trans hv)
      (mul_lt_mul_of_pos_right (show (j : ℚ) + 1 / 2 < (j + 1 : Nat) by push_cast; linarith) hunit))
      hunit.le
    exact Nat.le_of_lt_succ (by exact_mod_cast hlow)
  rcases Nat.lt_or_eq_of_le hle with hlt | heq
  · rcases roundedMantissa_cases em with heq | ⟨heq, -⟩ <;> omega
  · obtain ⟨m, roundBit, stickyBit⟩ := em
    change m = j at heq
    subst heq
    cases roundBit with
    | false => cases stickyBit <;> exact le_refl m
    | true =>
        cases stickyBit with
        | true => exact absurd hv (not_le.2 (h.upper rfl))
        | false =>
            change m + m % 2 ≤ m
            omega

/-- A number of the grid is a multiple of the unit of a double, or it is below all of the binade. -/
theorem OnGrid.multiple_or_lt
    {y : ℚ}
    (hy : OnGrid y)
    {m : Nat}
    {t : Int}
    (hfull : 2 ^ 52 ≤ m ∨ t = -1074) :
    (∃ j : Nat, y = j * 2 ^ t) ∨ y < m * 2 ^ t := by
  obtain ⟨k, f, hk, hf, rfl⟩ := hy
  by_cases hle : t ≤ f
  · left
    refine ⟨k * 2 ^ (f - t).toNat, ?_⟩
    have hf : (f : Int) = t + (f - t).toNat := by omega
    rw [hf, zpow_add₀ (by norm_num), zpow_natCast]
    have hcancel : (t + (f - t).toNat - t).toNat = (f - t).toNat := by omega
    rw [hcancel]
    push_cast
    ring
  · right
    have hmantissa : (2 : ℚ) ^ 52 ≤ m := by
      exact_mod_cast hfull.resolve_right (by omega)
    have hk : (k : ℚ) < 2 ^ 53 := by exact_mod_cast hk
    have hpower : (2 : ℚ) ^ (f + 1) ≤ 2 ^ t := zpow_le_zpow_right₀ (by norm_num) (by omega)
    have hsmall := two_zpow_pos f
    have hunit := two_zpow_pos t
    rw [two_zpow_succ] at hpower
    calc
      (k : ℚ) * 2 ^ f < 2 ^ 53 * 2 ^ f := by nlinarith
      _ = 2 ^ 52 * (2 * 2 ^ f) := by ring
      _ ≤ 2 ^ 52 * 2 ^ t := by nlinarith
      _ ≤ m * 2 ^ t := by nlinarith

/-- A number cut off at the exponent of its double is rounded to that double or the next. -/
theorem Approximates.rounds
    {em : ExtendedMantissa}
    {t : Int}
    {v : ℚ}
    (h : Approximates em t v)
    (hbits : em.mantissa < 2 ^ 53)
    (hfull : 2 ^ 52 ≤ em.mantissa ∨ t = -1074) :
    Rounds v (em.roundedMantissa * 2 ^ t) := by
  have hunit := two_zpow_pos t
  have hceil : (em.mantissa : ℚ) * 2 ^ t ≤ em.roundedMantissa * 2 ^ t := by
    rcases roundedMantissa_cases em with heq | ⟨heq, -⟩
    · rw [heq]
    · rw [heq]
      push_cast
      nlinarith
  have hle_grid : ∀ y, OnGrid y → v ≤ y → em.roundedMantissa * 2 ^ t ≤ y := by
    intro y hy hle
    rcases roundedMantissa_cases em with heq | ⟨heq, hresidue⟩
    · rw [heq]
      exact h.low.trans hle
    · have hstrict := lt_of_lt_of_le (h.residue hresidue) hle
      rcases hy.multiple_or_lt hfull with ⟨j, rfl⟩ | hbelow
      · have hlt : (em.mantissa : ℚ) < j := lt_of_mul_lt_mul_right hstrict hunit.le
        have hlt : em.mantissa + 1 ≤ j := by exact_mod_cast hlt
        have hle : ((em.mantissa + 1 : Nat) : ℚ) ≤ j := by exact_mod_cast hlt
        rw [heq]
        exact mul_le_mul_of_nonneg_right hle hunit.le
      · exact absurd hstrict (not_lt.2 hbelow.le)
  refine ⟨hle_grid, fun y hy hge => ?_, fun hv => ?_⟩
  · rcases hy.multiple_or_lt hfull with ⟨j, rfl⟩ | hbelow
    · have hlt : (j : ℚ) < em.mantissa + 1 :=
        lt_of_mul_lt_mul_right (lt_of_le_of_lt hge h.high) hunit.le
      have hlt : j < em.mantissa + 1 := by exact_mod_cast hlt
      have hle : (j : ℚ) ≤ em.mantissa := by exact_mod_cast Nat.le_of_lt_succ hlt
      exact (mul_le_mul_of_nonneg_right hle hunit.le).trans hceil
    · exact hbelow.le.trans hceil
  · by_cases hsmall : v ≤ 2 ^ 53
    · have hgrid53 : OnGrid (2 ^ 53) := by exact_mod_cast onGrid_nat (le_refl (2 ^ 53))
      exact hle_grid _ hgrid53 hsmall
    · -- between the two numbers the unit is two
      have hunit_two : t = 1 := unit_eq_two h hbits hfull (not_le.1 hsmall) hv
      rw [hunit_two] at h ⊢
      have htie : em.roundedMantissa ≤ 2 ^ 52 := by
        refine h.tie (by decide) (hv.trans ?_)
        norm_num
      have hcast : (em.roundedMantissa : ℚ) ≤ 2 ^ 52 := by exact_mod_cast htie
      rw [zpow_one]
      linarith

/-! ## Rounding -/

theorem targetExponent_eq (m : Nat) (e : Int) :
    Format.binary64.targetExponent (Float.Model.totalExponent m e) = max (m.log2 + e - 52) (-1074) := by
  simp only [Format.targetExponent, Float.Model.totalExponent, Format.mantissaBits,
    Format.minExponent]
  norm_num
  omega

/-- Digits enough for a double: none have to be added to reach its exponent. -/
def Ample (m : Nat) (e : Int) : Prop :=
  52 ≤ m.log2 ∨ e ≤ -1074

/-- The significand at the exponent of its double. -/
structure Fitted (em : ExtendedMantissa) (t : Int) : Prop where
  /-- It has at most 53 bits. -/
  bits : em.mantissa < 2 ^ 53
  /-- The exponent is not too small. -/
  low : -1074 ≤ t
  /-- It has 53 bits unless the exponent is the least one. -/
  full : 2 ^ 52 ≤ em.mantissa ∨ t = -1074

theorem shiftToTargetExponent_fitted
    {m : Nat}
    {e : Int}
    {accuracy : Accuracy}
    {v : ℚ}
    (h : Approximates (.ofMantissaAndAccuracy m accuracy) e v)
    (hample : Ample m e) :
    ∃ em t, shiftToTargetExponent Format.binary64 m e accuracy = (em, t) ∧
      Approximates em t v ∧ Fitted em t := by
  obtain ⟨t, ht⟩ : ∃ t, t = max (m.log2 + e - 52) (-1074) := ⟨_, rfl⟩
  obtain ⟨k, hk⟩ : ∃ k, k = (t - e).toNat := ⟨_, rfl⟩
  have hshift : e + k = t := by
    unfold Ample at hample
    omega
  refine ⟨ExtendedMantissa.ofMantissaAndAccuracy m accuracy >>> k, e + k, ?_, h.shiftRight k, ?_⟩
  · rw [shiftToTargetExponent, targetExponent_eq, ← ht, hk]
    rfl
  · have hlog : m < 2 ^ (m.log2 + 1) := Nat.lt_log2_self
    refine ⟨?_, by omega, ?_⟩
    · rw [mantissa_shiftRight, mantissa_ofMantissaAndAccuracy, Nat.div_lt_iff_lt_mul (by positivity),
        ← Nat.pow_add]
      exact lt_of_lt_of_le hlog (Nat.pow_le_pow_right (by decide) (by omega))
    · by_cases hleast : t = -1074
      · exact Or.inr (by omega)
      · left
        have hm : m ≠ 0 := by
          rintro rfl
          rw [Nat.log2_zero] at ht
          unfold Ample at hample
          rw [Nat.log2_zero] at hample
          omega
        rw [mantissa_shiftRight, mantissa_ofMantissaAndAccuracy, Nat.le_div_iff_mul_le (by positivity),
          ← Nat.pow_add]
        refine le_trans (Nat.pow_le_pow_right (by decide) ?_) (Nat.log2_self_le hm)
        omega

/-- A significand that fits stays as it is. -/
theorem shiftToTargetExponent_of_lt
    {r : Nat}
    {t : Int}
    (hr : r < 2 ^ 53)
    (ht : -1074 ≤ t) :
    shiftToTargetExponent Format.binary64 r t .exact = (⟨r, false, false⟩, t) := by
  have hlog : r.log2 ≤ 52 := by
    by_cases hzero : r = 0
    · rw [hzero, Nat.log2_zero]
      exact Nat.zero_le 52
    · exact Nat.le_of_lt_succ ((Nat.log2_lt hzero).2 hr)
  have hshift : (max ((r.log2 : Int) + t - 52) (-1074) - t).toNat = 0 := by omega
  rw [shiftToTargetExponent, targetExponent_eq, shiftToExponent, hshift]
  change (ExtendedMantissa.mk r false false, t + (0 : Nat)) = _
  rw [Nat.cast_zero, add_zero]

/-- A significand that rounding made too long loses its last bit, which is zero. -/
theorem shiftToTargetExponent_overflow
    {t : Int}
    (ht : -1074 ≤ t) :
    shiftToTargetExponent Format.binary64 (2 ^ 53) t .exact = (⟨2 ^ 52, false, false⟩, t + 1) := by
  have hshift : (max (((2 ^ 53).log2 : Int) + t - 52) (-1074) - t).toNat = 1 := by
    rw [Nat.log2_two_pow]
    omega
  rw [shiftToTargetExponent, targetExponent_eq, shiftToExponent, hshift]
  rfl

theorem roundWithAccuracy_eq
    {m n : Nat}
    {e t f : Int}
    {accuracy : Accuracy}
    {em : ExtendedMantissa}
    (hfirst : shiftToTargetExponent Format.binary64 m e accuracy = (em, t))
    (hsecond : shiftToTargetExponent Format.binary64 em.roundedMantissa t .exact =
      (⟨n, false, false⟩, f)) :
    roundWithAccuracy Format.binary64 .positive m e accuracy =
      if h : n = 0 then .zero .positive else .finite .positive n f (Nat.pos_of_ne_zero h) := by
  simp only [roundWithAccuracy, hfirst, hsecond]

/-- What rounding comes to: zero, or a significand and an exponent in canonical form, but for an
exponent that may be too large. -/
theorem roundWithAccuracy_rounds
    {m : Nat}
    {e : Int}
    {accuracy : Accuracy}
    {v : ℚ}
    (h : Approximates (.ofMantissaAndAccuracy m accuracy) e v)
    (hample : Ample m e) :
    (roundWithAccuracy Format.binary64 .positive m e accuracy = .zero .positive ∧ Rounds v 0) ∨
      ∃ r t hpos, roundWithAccuracy Format.binary64 .positive m e accuracy = .finite .positive r t hpos ∧
        r < 2 ^ 53 ∧ -1074 ≤ t ∧ (2 ^ 52 ≤ r ∨ t = -1074) ∧ Rounds v (r * 2 ^ t) := by
  obtain ⟨em, t, hfirst, happrox, hfitted⟩ := shiftToTargetExponent_fitted h hample
  have hrounds := happrox.rounds hfitted.bits hfitted.full
  have hcases := roundedMantissa_cases em
  have hbits := hfitted.bits
  have hfull := hfitted.full
  by_cases hsmall : em.roundedMantissa < 2 ^ 53
  · rw [roundWithAccuracy_eq hfirst (shiftToTargetExponent_of_lt hsmall hfitted.low)]
    by_cases hzero : em.roundedMantissa = 0
    · left
      refine ⟨dif_pos hzero, ?_⟩
      rw [hzero, Nat.cast_zero, zero_mul] at hrounds
      exact hrounds
    · right
      exact ⟨em.roundedMantissa, t, Nat.pos_of_ne_zero hzero, dif_neg hzero, hsmall, hfitted.low,
        by omega, hrounds⟩
  · right
    have hlong : em.roundedMantissa = 2 ^ 53 := by omega
    have hoverflow := shiftToTargetExponent_overflow hfitted.low
    rw [← hlong] at hoverflow
    have hlow : -1074 ≤ t + 1 := by
      have := hfitted.low
      omega
    rw [roundWithAccuracy_eq hfirst hoverflow]
    refine ⟨2 ^ 52, t + 1, by decide, rfl, by decide, hlow, Or.inl (Nat.le_refl _), ?_⟩
    have hsame : ((2 ^ 52 : Nat) : ℚ) * 2 ^ (t + 1) = (em.roundedMantissa : ℚ) * 2 ^ t := by
      rw [two_zpow_succ, hlong]
      push_cast
      ring
    rw [hsame]
    exact hrounds

/-- An exponent that is too large makes the number greater than all doubles. -/
theorem greatest_lt
    {r : Nat}
    {t : Int}
    (hr : 2 ^ 52 ≤ r)
    (ht : 971 < t) :
    greatest < r * 2 ^ t := by
  have hr : (2 : ℚ) ^ 52 ≤ r := by exact_mod_cast hr
  have hpower : (2 : ℚ) ^ (972 : Int) ≤ 2 ^ t := zpow_le_zpow_right₀ (by norm_num) (by omega)
  have hunit := two_zpow_pos 971
  have hdouble : (2 : ℚ) ^ (972 : Int) = 2 * 2 ^ (971 : Int) := two_zpow_succ 971
  calc
    greatest < 2 ^ 53 * 2 ^ (971 : Int) := by
      unfold greatest
      refine mul_lt_mul_of_pos_right ?_ hunit
      norm_num
    _ = 2 ^ 52 * 2 ^ (972 : Int) := by rw [hdouble]; ring
    _ ≤ r * 2 ^ t := mul_le_mul hr hpower (two_zpow_pos 972).le (by positivity)

theorem pack_of_large
    {r : Nat}
    {t : Int}
    (hpos : 0 < r)
    (ht : 971 < t) :
    (Float.Model.pack (.finite .positive r t hpos)).unpack = .infinity .positive := by
  have hbiased : 2 ^ 11 ≤ (t + (Format.binary64.exponentBias : Nat) + (52 : Nat)).toNat + 1 := by
    rw [show (Format.binary64.exponentBias : Nat) = 1023 from rfl]
    omega
  have hpack : UnpackedFloat.pack Format.binary64 (.finite .positive r t hpos) =
      UnpackedFloat.pack Format.binary64 (.infinity .positive) := if_pos hbiased
  have hsame : Float.Model.pack (.finite .positive r t hpos) = Float.Model.pack (.infinity .positive) := by
    simp only [Float.Model.pack, hpack]
  rw [hsame]
  exact unpack_pack_infinity

/-- A rounded number, packed into a double: it has the value of the rounded number unless that is
greater than all doubles. -/
theorem pack_roundWithAccuracy
    {m : Nat}
    {e : Int}
    {accuracy : Accuracy}
    {v : ℚ}
    (h : Approximates (.ofMantissaAndAccuracy m accuracy) e v)
    (hample : Ample m e) :
    let x := Float.ofModel (Float.Model.pack (roundWithAccuracy Format.binary64 .positive m e accuracy))
    (∃ w, HasValue x w ∧ Rounds v w) ∨
      x.toModel.unpack = .infinity .positive ∧ greatest < v := by
  intro x
  rcases roundWithAccuracy_rounds h hample with ⟨hzero, hrounds⟩ | ⟨r, t, hpos, hfinite, hbits, hlow,
    hfull, hrounds⟩
  · left
    refine ⟨0, Or.inl ⟨?_, rfl⟩, hrounds⟩
    change (Float.Model.pack (roundWithAccuracy _ _ _ _ _)).unpack = _
    rw [hzero]
    exact unpack_pack_zero
  · have hunpack : x.toModel.unpack = (Float.Model.pack (.finite .positive r t hpos)).unpack := by
      change (Float.Model.pack (roundWithAccuracy _ _ _ _ _)).unpack = _
      rw [hfinite]
    by_cases hhigh : t ≤ 971
    · left
      refine ⟨r * 2 ^ t, Or.inr ⟨r, t, hpos, ?_, rfl⟩, hrounds⟩
      rw [hunpack]
      exact unpack_pack ⟨hpos, hbits, hlow, hhigh, hfull⟩
    · right
      have hlarge := greatest_lt (hfull.resolve_right (by omega)) (not_le.1 hhigh)
      refine ⟨hunpack.trans (pack_of_large hpos (not_le.1 hhigh)), ?_⟩
      by_contra hle
      exact absurd (hrounds.le greatest onGrid_greatest (not_lt.1 hle)) (not_le.2 hlarge)

end Decimal
end TournamentDesk
