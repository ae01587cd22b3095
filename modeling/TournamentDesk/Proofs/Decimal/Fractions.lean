import TournamentDesk.Proofs.Decimal.Arithmetic

/-!
# Doubles between zero and one

Quotients of doubles, and decimal fractions that are assembled from digits and a power of ten, are
doubles between zero and one as soon as the exact numbers are. No rounding error has to be looked at,
since rounding never passes one.

* `Fraction`: a double between zero and one.
* `assemble_fraction`: a decimal fraction is read as such a double.
-/

namespace TournamentDesk
namespace Decimal

open Float.Model (Format UnpackedFloat)
open Float.Model.UnpackedFloat

/-- A double between zero and one. -/
def Fraction (x : Float) : Prop :=
  ∃ w, HasValue x w ∧ w ≤ 1

theorem hasValue_zero : HasValue 0.0 0 :=
  Or.inl ⟨rfl, rfl⟩

theorem fraction_zero : Fraction 0.0 :=
  ⟨0, hasValue_zero, zero_le_one⟩

/-- Only zero is equal to zero. -/
theorem HasValue.beq_zero
    {x : Float}
    {w : ℚ}
    (h : HasValue x w) :
    (x == 0.0) = true ↔ w = 0 := by
  have hbeq : (x == 0.0) = (UnpackedFloat.compare x.toModel.unpack (.zero .positive) == some .eq) := rfl
  rcases h with ⟨hx, rfl⟩ | ⟨m, e, hm, hx, rfl⟩
  · rw [hbeq, hx]
    exact iff_of_true rfl rfl
  · rw [hbeq, hx]
    have hne : (m : ℚ) * 2 ^ e ≠ 0 := by
      have hm : (0 : ℚ) < m := by exact_mod_cast hm
      exact (mul_pos hm (two_zpow_pos e)).ne'
    refine iff_of_false ?_ hne
    intro heq
    change false = true at heq
    cases heq

theorem one_le_greatest : (1 : ℚ) ≤ greatest := by
  exact_mod_cast nat_le_greatest (n := 1) (by decide)

theorem onGrid_one : OnGrid 1 := by
  exact_mod_cast onGrid_nat (n := 1) (by decide)

/-- A quotient of a smaller by a greater double. -/
theorem HasValue.div_fraction
    {x y : Float}
    {a b : ℚ}
    (hx : HasValue x a)
    (hy : HasValue y b)
    (hb : b ≠ 0)
    (hab : a ≤ b) :
    Fraction (x / y) := by
  have hpos : 0 < b := lt_of_le_of_ne hy.nonneg hb.symm
  have hone : a / b ≤ 1 := (div_le_one hpos).2 hab
  obtain ⟨w, hw, hrounds⟩ := (computes_div hx hy hb).value (hone.trans one_le_greatest)
  exact ⟨w, hw, hrounds.le 1 onGrid_one hone⟩

theorem HasValue.div_nat
    {x y : Float}
    {a b : Nat}
    (hx : HasValue x a)
    (hy : HasValue y b)
    (hb : b ≠ 0)
    (hab : a ≤ b) :
    Fraction (x / y) :=
  hx.div_fraction hy (by exact_mod_cast hb) (by exact_mod_cast hab)

/-- Divided by infinity, a double becomes zero. -/
theorem HasValue.div_infinity
    {x y : Float}
    {a : ℚ}
    (hx : HasValue x a)
    (hy : y.toModel.unpack = .infinity .positive) :
    Fraction (x / y) := by
  have hzero : UnpackedFloat.div Format.binary64 x.toModel.unpack y.toModel.unpack =
      .zero .positive := by
    rcases hx with ⟨hx, -⟩ | ⟨m, e, hm, hx, -⟩
    · rw [hx, hy]
      rfl
    · rw [hx, hy]
      rfl
  refine ⟨0, Or.inl ⟨?_, rfl⟩, zero_le_one⟩
  change (Float.Model.pack
    (UnpackedFloat.div Format.binary64 x.toModel.unpack y.toModel.unpack)).unpack = _
  rw [hzero]
  exact unpack_pack_zero

/-! ## Powers of ten -/

theorem natCast_mul_two_pow (m e : Nat) : ((m * 2 ^ e : Nat) : ℚ) = m * 2 ^ (e : Int) := by
  rw [zpow_natCast, Nat.cast_mul, Nat.cast_pow, Nat.cast_ofNat]

theorem greatest_eq_cast : greatest = ((2 ^ 53 - 1) * 2 ^ 971 : Nat) :=
  (natCast_mul_two_pow (2 ^ 53 - 1) 971).symm

theorem power_le_greatest
    {n : Nat}
    (h : n ≤ powerLimit) :
    (10 : ℚ) ^ n ≤ greatest := by
  have hmax : 10 ^ powerLimit ≤ (2 ^ 53 - 1) * 2 ^ 971 := by decide +kernel
  have hn : 10 ^ n ≤ 10 ^ powerLimit := Nat.pow_le_pow_right (by decide) h
  rw [greatest_eq_cast]
  exact_mod_cast hn.trans hmax

theorem natCast_le_greatest
    {n : Nat}
    (h : n ≤ significandLimit) :
    (n : ℚ) ≤ greatest := by
  have hlimit : n ≤ 10 ^ 20 := by
    unfold significandLimit at h
    omega
  calc
    (n : ℚ) ≤ 10 ^ 20 := by exact_mod_cast hlimit
    _ ≤ greatest := power_le_greatest (by decide)

/-- A power of ten is at least each number of the grid that it is exactly. -/
theorem power_value
    {n : Nat}
    (h : n ≤ powerLimit) :
    ∃ b, HasValue (power n) b ∧ Rounds (10 ^ n) b :=
  (computes_power h).value (power_le_greatest h)

theorem one_le_power (n : Nat) : (1 : ℚ) ≤ 10 ^ n :=
  one_le_pow₀ (by norm_num)

/-- Between a small natural number and a power of ten there is a number that a double can have. -/
theorem exists_onGrid_le_power
    {s n : Nat}
    (hlimit : s ≤ significandLimit)
    (hle : s ≤ 10 ^ n) :
    ∃ y, OnGrid y ∧ (s : ℚ) ≤ y ∧ y ≤ 10 ^ n ∧ 1 ≤ y := by
  by_cases hsmall : n ≤ 22
  · refine ⟨10 ^ n, ⟨5 ^ n, n, ?_, by omega, ?_⟩, by exact_mod_cast hle, le_rfl, one_le_power n⟩
    · exact lt_of_le_of_lt (Nat.pow_le_pow_right (by decide) hsmall) (by decide)
    · rw [zpow_natCast, Nat.cast_pow, ← mul_pow]
      norm_num
  · refine ⟨2 ^ 64, ⟨2 ^ 52, 12, by decide, by decide, by norm_num⟩, ?_, ?_, by norm_num⟩
    · have hlimit : s ≤ 2 ^ 64 := by
        unfold significandLimit at hlimit
        omega
      exact_mod_cast hlimit
    · calc
        (2 : ℚ) ^ 64 ≤ 10 ^ 23 := by norm_num
        _ ≤ 10 ^ n := pow_le_pow_right₀ (by norm_num) (by omega)

theorem HasValue.div_power
    {x : Float}
    {a y : ℚ}
    (hx : HasValue x a)
    (hy : OnGrid y)
    (hay : a ≤ y)
    (hone : 1 ≤ y)
    {n : Nat}
    (hn : n ≤ powerLimit)
    (hyn : y ≤ 10 ^ n) :
    Fraction (x / power n) := by
  obtain ⟨b, hb, hrounds⟩ := power_value hn
  have hyb : y ≤ b := hrounds.ge y hy hyn
  refine hx.div_fraction hb ?_ (hay.trans hyb)
  have : 0 < b := lt_of_lt_of_le zero_lt_one (hone.trans hyb)
  exact this.ne'

/-! ## Scaling -/

theorem scale?_of_le
    (x : Float)
    {n : Nat}
    (hpos : 1 ≤ n)
    (hn : n ≤ powerLimit) :
    scale? x (-n) = some (x / power n) := by
  rw [scale?, if_neg (by omega), if_pos (by omega)]
  rw [neg_neg, Int.toNat_natCast]

theorem scale?_of_gt
    (x : Float)
    {n : Nat}
    (hn : powerLimit < n) :
    scale? x (-n) =
      if x == 0.0 then some x else scale? (x / power powerLimit) (-(n - powerLimit : Nat)) := by
  have hshift : -(n : Int) + powerLimit = -(n - powerLimit : Nat) := by omega
  rw [scale?, if_neg (by omega), if_neg (by omega), hshift]

theorem Fraction.scale?
    {x : Float}
    (h : Fraction x)
    {n : Nat}
    (hpos : 1 ≤ n) :
    ∃ y, Decimal.scale? x (-n) = some y ∧ Fraction y := by
  induction n using Nat.strongRecOn generalizing x with
  | ind n ih =>
      obtain ⟨w, hw, hone⟩ := h
      by_cases hn : n ≤ powerLimit
      · exact ⟨_, scale?_of_le x hpos hn, hw.div_power onGrid_one hone le_rfl hn (one_le_power n)⟩
      · rw [scale?_of_gt x (not_le.1 hn)]
        by_cases hzero : (x == 0.0) = true
        · rw [if_pos hzero]
          exact ⟨x, rfl, w, hw, hone⟩
        · rw [if_neg hzero]
          have hquotient : Fraction (x / power powerLimit) :=
            hw.div_power onGrid_one hone le_rfl le_rfl (one_le_power _)
          unfold powerLimit at hn
          exact ih (n - powerLimit) (by unfold powerLimit; omega) hquotient (by unfold powerLimit; omega)

/-- A significand that its power of ten takes below one. -/
theorem scale?_ofNat
    {s n : Nat}
    (hlimit : s ≤ significandLimit)
    (hle : s ≤ 10 ^ n)
    (hpos : 1 ≤ n) :
    ∃ y, scale? (Float.ofNat s) (-n) = some y ∧ Fraction y := by
  obtain ⟨a, ha, hrounds⟩ := (computes_ofNat s).value (natCast_le_greatest hlimit)
  by_cases hn : n ≤ powerLimit
  · obtain ⟨y, hy, hsy, hyn, hone⟩ := exists_onGrid_le_power hlimit hle
    exact ⟨_, scale?_of_le _ hpos hn, ha.div_power hy (hrounds.le y hy hsy) hone hn hyn⟩
  · rw [scale?_of_gt _ (not_le.1 hn)]
    by_cases hzero : (Float.ofNat s == 0.0) = true
    · rw [if_pos hzero]
      refine ⟨_, rfl, a, ha, ?_⟩
      rw [ha.beq_zero.1 hzero]
      exact zero_le_one
    · rw [if_neg hzero]
      have hlarge : s ≤ 10 ^ powerLimit := by
        refine le_trans ?_ (Nat.pow_le_pow_right (by decide) (show 20 ≤ powerLimit by decide))
        unfold significandLimit at hlimit
        omega
      obtain ⟨y, hy, hsy, hyn, hone⟩ := exists_onGrid_le_power hlimit hlarge
      have hquotient : Fraction (Float.ofNat s / power powerLimit) :=
        ha.div_power hy (hrounds.le y hy hsy) hone le_rfl hyn
      exact hquotient.scale? (by omega)

theorem assemble_fraction
    {s n : Nat}
    (hlimit : s ≤ significandLimit)
    (hle : s ≤ 10 ^ n)
    (hpos : 1 ≤ n) :
    ∃ y, assemble false s (-n) = .float y ∧ Fraction y := by
  obtain ⟨y, hy, hfraction⟩ := scale?_ofNat hlimit hle hpos
  refine ⟨y, ?_, hfraction⟩
  rw [assemble, hy]
  rfl

end Decimal
end TournamentDesk
