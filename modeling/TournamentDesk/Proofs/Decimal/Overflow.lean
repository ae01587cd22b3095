import TournamentDesk.Proofs.Decimal.Fractions
import TournamentDesk.Proofs.Decimal.Shortest

/-!
# Digits that do not overflow

Reading multiplies a significand by a power of ten, and both are rounded before and after. Near the
greatest double the three errors together could lead past it. They do not: the digits of a double there
stop at the power of ten that is next below the last binary place, and so the significand is exact or one
less, and the power of ten is almost exact.

* `shortest_readable`: the digits of a double are small, or they are few.
* `scale?_readable`: such digits are scaled to a double.
-/

namespace TournamentDesk
namespace Decimal

open Float.Model (Format UnpackedFloat)

/-! ## How much rounding adds -/

theorem onGrid_mul_two_pow
    {n : Nat}
    (h : n ≤ 2 ^ 53)
    (e : Nat) :
    OnGrid (n * 2 ^ e : Nat) := by
  obtain ⟨k, f, hk, hf, heq⟩ := onGrid_nat h
  refine ⟨k, f + e, hk, by omega, ?_⟩
  rw [natCast_mul_two_pow, heq, zpow_add₀ (by norm_num), mul_assoc]

/-- Rounding adds at most one part in `2 ^ 52` to a natural number. -/
theorem Rounds.le_nat
    {n : Nat}
    {w : ℚ}
    (h : Rounds n w) :
    w ≤ n * (1 + 1 / 2 ^ 52) := by
  by_cases hsmall : n ≤ 2 ^ 53
  · have hw := h.le n (onGrid_nat hsmall) le_rfl
    have hn : (0 : ℚ) ≤ n := Nat.cast_nonneg n
    nlinarith
  · -- the next multiple of the unit is on the grid
    obtain ⟨j, hj⟩ : ∃ j, j = n.log2 - 52 := ⟨_, rfl⟩
    have hn : n ≠ 0 := by omega
    have hlog : 53 ≤ n.log2 := (Nat.le_log2 hn).2 (by omega)
    have hlow : 2 ^ 52 * 2 ^ j ≤ n := by
      rw [← Nat.pow_add, hj, Nat.add_sub_cancel' (by omega)]
      exact Nat.log2_self_le hn
    have hhigh : n < 2 ^ 53 * 2 ^ j := by
      rw [← Nat.pow_add, hj, show 53 + (n.log2 - 52) = n.log2 + 1 by omega]
      exact Nat.lt_log2_self
    have hpos : 0 < 2 ^ j := Nat.two_pow_pos j
    have hcut : n / 2 ^ j < 2 ^ 53 := (Nat.div_lt_iff_lt_mul hpos).2 hhigh
    have hup : n ≤ (n / 2 ^ j + 1) * 2 ^ j := by
      rw [Nat.mul_comm]
      exact (Nat.lt_mul_div_succ n hpos).le
    have hdown : n / 2 ^ j * 2 ^ j ≤ n := Nat.div_mul_le_self n (2 ^ j)
    have hw := h.le _ (onGrid_mul_two_pow hcut j) (by exact_mod_cast hup)
    have hlow' : (2 : ℚ) ^ 52 * 2 ^ j ≤ n := by exact_mod_cast hlow
    have hdown' : ((n / 2 ^ j : Nat) : ℚ) * 2 ^ j ≤ n := by exact_mod_cast hdown
    push_cast at hw
    calc
      w ≤ (((n / 2 ^ j : Nat) : ℚ) + 1) * 2 ^ j := by exact_mod_cast hw
      _ ≤ n + 2 ^ j := by linarith
      _ ≤ n * (1 + 1 / 2 ^ 52) := by linarith

/-! ## Where the search for digits ends -/

/-- What lies within half a unit of the last binary place rounds to the double. -/
theorem covers_of_lt
    {v : Binary}
    (hstep : v.atStep = false)
    {k : Int}
    {n : Nat}
    (hlow : 4 * v.m * (twoTo v.q.toNat * tenTo (-k).toNat) <
      4 * n * (v.scaled k).denominator + 2 * (twoTo v.q.toNat * tenTo (-k).toNat))
    (hhigh : 4 * n * (v.scaled k).denominator <
      4 * v.m * (twoTo v.q.toNat * tenTo (-k).toNat) + 2 * (twoTo v.q.toNat * tenTo (-k).toNat)) :
    v.covers k n = true := by
  obtain ⟨u, hu⟩ : ∃ u, u = twoTo v.q.toNat * tenTo (-k).toNat := ⟨_, rfl⟩
  have hup : (4 * v.m + 2) * u = 4 * v.m * u + 2 * u := Nat.add_mul _ _ _
  have hdown : (4 * v.m - 2) * u = 4 * v.m * u - 2 * u := Nat.sub_mul _ _ _
  rw [← hu] at hlow hhigh
  unfold Binary.covers
  simp only [hstep, Bool.false_eq_true, if_false, ← hu, hup, hdown]
  split
  · simp only [Bool.and_eq_true, decide_eq_true_eq]
    omega
  · next hodd =>
    have hone : 4 * u ≤ 4 * v.m * u := Nat.mul_le_mul_right u (by omega)
    simp only [Bool.and_eq_true, decide_eq_true_eq]
    omega

/-- A power of ten that is less than the last binary place has a multiple that rounds to the double. -/
theorem exists_onGrid?
    {v : Binary}
    (hstep : v.atStep = false)
    {k : Int}
    (hunit : (v.scaled k).denominator < twoTo v.q.toNat * tenTo (-k).toNat) :
    ∃ n, v.onGrid? k = some n := by
  obtain ⟨b, hb⟩ : ∃ b, b = (v.scaled k).numerator / (4 * (v.scaled k).denominator) := ⟨_, rfl⟩
  have hnumerator : (v.scaled k).numerator = 4 * v.m * (twoTo v.q.toNat * tenTo (-k).toNat) :=
    Nat.mul_assoc _ _ _
  have hdivision := Nat.div_add_mod (v.scaled k).numerator (4 * (v.scaled k).denominator)
  have hpos : 0 < 4 * (v.scaled k).denominator :=
    Nat.mul_pos (by decide) (Nat.mul_pos (twoTo_pos _) (tenTo_pos _))
  have hrest := Nat.mod_lt (v.scaled k).numerator hpos
  rw [← hb] at hdivision
  have hpoint : 4 * (v.scaled k).denominator * b = 4 * b * (v.scaled k).denominator := by ring
  have hnext : 4 * (b + 1) * (v.scaled k).denominator =
      4 * b * (v.scaled k).denominator + 4 * (v.scaled k).denominator := by ring
  have hhit : v.covers k b = true ∨ v.covers k (b + 1) = true := by
    by_cases hnear : (v.scaled k).numerator % (4 * (v.scaled k).denominator) <
        2 * (v.scaled k).denominator
    · exact .inl (covers_of_lt hstep (by omega) (by omega))
    · exact .inr (covers_of_lt hstep (by omega) (by omega))
  unfold Binary.onGrid?
  simp only [← hb]
  rcases hhit with hhit | hhit
  · rw [hhit]
    cases v.covers k (b + 1) <;> exact ⟨_, rfl⟩
  · rw [hhit]
    cases v.covers k b <;> exact ⟨_, rfl⟩

/-- The search does not go past a power of ten that has a multiple on its grid. -/
theorem le_descend_exponent
    {v : Binary}
    {k₀ : Int}
    (hhit : ∃ n, v.onGrid? k₀ = some n)
    {steps : Nat}
    {k : Int}
    (hle : k₀ ≤ k)
    (hlt : k < k₀ + steps) :
    k₀ ≤ (v.descend steps k).exponent := by
  induction steps generalizing k with
  | zero => omega
  | succ steps ih =>
      rw [Binary.descend]
      split
      · exact hle
      · next hnone =>
        have hne : k ≠ k₀ := by
          rintro rfl
          obtain ⟨n, hn⟩ := hhit
          rw [hn] at hnone
          cases hnone
        exact ih (by omega) (by omega)

/-! ## The digits of a double -/

/-- The number that digits stand for. -/
def Digits.value (d : Digits) : ℚ :=
  d.digits * 10 ^ d.exponent

theorem natCast_mul_ten_pow (m n : Nat) : ((m * 10 ^ n : Nat) : ℚ) = m * 10 ^ (n : Int) := by
  rw [zpow_natCast, Nat.cast_mul, Nat.cast_pow, Nat.cast_ofNat]

/-- The digits of the greatest double. -/
def writtenGreatest : Nat :=
  17976931348623157 * 10 ^ 292

/-- A number just above half the greatest double. -/
def middle : Nat :=
  (2 ^ 53 + 1) * 2 ^ 970

/-- A number written down to a place is small, or it has few digits and is at most what the greatest double
is written as. -/
def Readable (place : Int) (w : ℚ) : Prop :=
  w ≤ middle ∨ 292 ≤ place ∧ w ≤ writtenGreatest

theorem Readable.mono
    {place place' : Int}
    {w w' : ℚ}
    (h : Readable place w)
    (hplace : place ≤ place')
    (hw : w' ≤ w) :
    Readable place' w' := by
  rcases h with hsmall | ⟨hfew, hlarge⟩
  · exact .inl (hw.trans hsmall)
  · exact .inr ⟨hfew.trans hplace, hw.trans hlarge⟩

theorem Readable.le_writtenGreatest
    {place : Int}
    {w : ℚ}
    (h : Readable place w) :
    w ≤ writtenGreatest := by
  rcases h with hsmall | ⟨-, hlarge⟩
  · exact hsmall.trans (Nat.cast_le.2 (by decide +kernel))
  · exact hlarge

theorem middle_eq_cast : (middle : ℚ) = (2 ^ 53 + 1 : Nat) * 2 ^ (970 : Int) :=
  natCast_mul_two_pow (2 ^ 53 + 1) 970

theorem zpow_eq_div
    {a : ℚ}
    (ha : a ≠ 0)
    (z : Int) :
    a ^ z = a ^ z.toNat / a ^ (-z).toNat := by
  rw [← zpow_natCast, ← zpow_natCast, ← zpow_sub₀ ha, Int.toNat_sub_toNat_neg]

theorem shortest_value_le (v : Binary) : v.shortest.value ≤ (v.m + 1 / 2) * 2 ^ v.q := by
  obtain ⟨d, hd⟩ : ∃ d, d = v.shortest := ⟨_, rfl⟩
  have hupper := descend_le_upper v 40 v.topExponent
  change 4 * v.shortest.digits * (v.scaled v.shortest.exponent).denominator ≤
    (4 * v.m + 2) * (twoTo v.q.toNat * tenTo (-v.shortest.exponent).toNat) at hupper
  rw [← hd] at hupper ⊢
  simp only [Binary.scaled, twoTo, tenTo, Nat.pow_eq] at hupper
  have hupper : (4 : ℚ) * d.digits * (2 ^ (-v.q).toNat * 10 ^ d.exponent.toNat) ≤
      (4 * v.m + 2) * (2 ^ v.q.toNat * 10 ^ (-d.exponent).toNat) := by
    exact_mod_cast hupper
  rw [Digits.value, zpow_eq_div (by norm_num) d.exponent, zpow_eq_div (by norm_num) v.q,
    ← mul_div_assoc, ← mul_div_assoc, div_le_div_iff₀ (by positivity) (by positivity)]
  linarith

/-- The digits of the greatest double. -/
theorem shortest_greatest :
    (Binary.mk (2 ^ 53 - 1) 971 false).shortest = ⟨17976931348623157, 292⟩ := by
  decide +kernel

/-- Where the last binary place of a double is greatest, its digits stop at the power of ten below. -/
theorem le_shortest_exponent
    {v : Binary}
    (hq : v.q = 971)
    (hfull : 2 ^ 52 ≤ v.m)
    (hbits : v.m < 2 ^ 53)
    (hstep : v.atStep = false) :
    292 ≤ v.shortest.exponent := by
  have hunit : (v.scaled 292).denominator < twoTo v.q.toNat * tenTo (-292 : Int).toNat := by
    have hpower : twoTo (-971 : Int).toNat * tenTo (292 : Int).toNat <
        twoTo (971 : Int).toNat * tenTo (-292 : Int).toNat := by
      decide +kernel
    rw [Binary.scaled, hq]
    exact hpower
  have hlog : v.m.log2 = 52 := by
    rw [Nat.log2_eq_iff (by omega)]
    omega
  have htop : v.topExponent = 318 := by
    rw [Binary.topExponent, hq, hlog]
    rfl
  exact le_descend_exponent (exists_onGrid? hstep hunit) (by omega) (by omega)

/-- Where the last binary place of a double is greatest, no digits are above those of the greatest
double. -/
theorem shortest_le_writtenGreatest
    {v : Binary}
    (hq : v.q = 971)
    (hbits : v.m < 2 ^ 53)
    (hstep : v.atStep = false) :
    v.shortest.value ≤ writtenGreatest := by
  by_cases hgreatest : v.m = 2 ^ 53 - 1
  · obtain ⟨m, q, atStep⟩ := v
    obtain rfl : m = 2 ^ 53 - 1 := hgreatest
    obtain rfl : q = 971 := hq
    obtain rfl : atStep = false := hstep
    rw [shortest_greatest]
    exact (natCast_mul_ten_pow 17976931348623157 292).ge
  · have hvalue := shortest_value_le v
    have hm : (v.m : ℚ) + 2 ≤ 2 ^ 53 := by
      have hm : v.m + 2 ≤ 2 ^ 53 := by omega
      exact_mod_cast hm
    have hpower : ((2 ^ 54 - 3) * 2 ^ 970 : Nat) ≤ (writtenGreatest : ℚ) :=
      Nat.cast_le.2 (by decide +kernel)
    rw [natCast_mul_two_pow (2 ^ 54 - 3) 970] at hpower
    rw [hq, show (971 : Int) = 970 + 1 from rfl, two_zpow_succ] at hvalue
    calc
      v.shortest.value ≤ (v.m + 1 / 2) * (2 * 2 ^ (970 : Int)) := hvalue
      _ = (2 * v.m + 1) * 2 ^ (970 : Int) := by ring
      _ ≤ (2 ^ 54 - 3 : Nat) * 2 ^ (970 : Int) := by
        refine mul_le_mul_of_nonneg_right ?_ (two_zpow_pos 970).le
        norm_num
        linarith only [hm]
      _ ≤ writtenGreatest := hpower

/-- The digits of a double that is far from the greatest one are small. -/
theorem shortest_le_middle
    {v : Binary}
    (hv : InFormat v)
    (hlower : v.q = 971 → v.m ≤ 2 ^ 52) :
    v.shortest.value ≤ middle := by
  refine (shortest_value_le v).trans ?_
  rw [middle_eq_cast]
  by_cases hq : v.q = 971
  · have hm : (v.m : ℚ) ≤ 2 ^ 52 := by exact_mod_cast hlower hq
    rw [hq, show (971 : Int) = 970 + 1 from rfl, two_zpow_succ]
    calc
      ((v.m : ℚ) + 1 / 2) * (2 * 2 ^ (970 : Int)) = (2 * v.m + 1) * 2 ^ (970 : Int) := by ring
      _ ≤ (2 ^ 53 + 1 : Nat) * 2 ^ (970 : Int) := by
        refine mul_le_mul_of_nonneg_right ?_ (two_zpow_pos 970).le
        norm_num
        linarith only [hm]
  · have hbits := hv.bits
    have hm : (v.m : ℚ) + 1 ≤ 2 ^ 53 := by exact_mod_cast hbits
    have hpower : (2 : ℚ) ^ v.q ≤ 2 ^ (970 : Int) := by
      have hhigh := hv.high
      exact zpow_le_zpow_right₀ (by norm_num) (by omega)
    refine mul_le_mul ?_ hpower (two_zpow_pos v.q).le (Nat.cast_nonneg _)
    norm_num
    linarith only [hm]

/-- The digits of a double are small, or they are few. -/
theorem shortest_readable
    {v : Binary}
    (hv : InFormat v)
    (hleast : v.atStep = true → v.m = 2 ^ 52) :
    Readable v.shortest.exponent v.shortest.value := by
  by_cases hlarge : v.q = 971 ∧ 2 ^ 52 < v.m
  · obtain ⟨hq, hfull⟩ := hlarge
    have hstep : v.atStep = false := by
      by_contra hstep
      have hm := hleast (by simpa using hstep)
      omega
    exact .inr ⟨le_shortest_exponent hq hfull.le hv.bits hstep,
      shortest_le_writtenGreatest hq hv.bits hstep⟩
  · refine .inl (shortest_le_middle hv ?_)
    intro hq
    omega

/-! ## Scaling -/

theorem HasValue.isInf_eq_false
    {x : Float}
    {w : ℚ}
    (h : HasValue x w) :
    x.isInf = false := by
  change x.toModel.unpack.isInf = false
  rcases h with ⟨hx, -⟩ | ⟨m, e, hpos, hx, -⟩ <;> rw [hx] <;> rfl

/-- A product that stays within the doubles. -/
theorem scale?_of_le_greatest
    {x : Float}
    {a b : ℚ}
    {n : Nat}
    (hn : n ≤ powerLimit)
    (hx : HasValue x a)
    (hy : HasValue (power n) b)
    (h : a * b ≤ greatest) :
    ∃ y, scale? x n = some y := by
  obtain ⟨w, hw, -⟩ := (computes_mul hx hy).value h
  refine ⟨x * power n, ?_⟩
  rw [scale?, if_pos (by omega), if_pos (by omega), Int.toNat_natCast]
  exact if_neg (by rw [hw.isInf_eq_false]; decide)

/-- A product of numbers of which the second one was rounded, and the first one was rounded or is exact. -/
theorem mul_le_of_rounds
    {s p g k : Nat}
    {a b : ℚ}
    (ha : a ≤ s * (1 + 1 / 2 ^ 52) ^ k)
    (hb : Rounds p b)
    (hnonneg : 0 ≤ b)
    (h : s * p * (2 ^ 52 + 1) ^ (k + 1) ≤ g * (2 ^ 52) ^ (k + 1)) :
    a * b ≤ g := by
  have herror : (1 + 1 / 2 ^ 52 : ℚ) = (2 ^ 52 + 1) / 2 ^ 52 := by norm_num
  calc
    a * b ≤ s * (1 + 1 / 2 ^ 52) ^ k * (p * (1 + 1 / 2 ^ 52)) :=
      mul_le_mul ha hb.le_nat hnonneg (by positivity)
    _ = s * p * (1 + 1 / 2 ^ 52) ^ (k + 1) := by ring
    _ = s * p * (2 ^ 52 + 1) ^ (k + 1) / (2 ^ 52) ^ (k + 1) := by rw [herror, div_pow, mul_div_assoc]
    _ ≤ g := by
      rw [div_le_iff₀ (by positivity)]
      exact_mod_cast h

/-- The significand of the greatest double lies in the middle between two doubles, and the lower one is
even. -/
theorem hasValue_significand_greatest
    {a : ℚ}
    (h : HasValue (Float.ofNat 17976931348623157) a) :
    a = (17976931348623156 : Nat) := by
  have hunpack : (Float.ofNat 17976931348623157).toModel.unpack =
      .finite .positive 8988465674311578 1 (by decide) := rfl
  rcases h with ⟨hzero, -⟩ | ⟨m, e, hpos, hfinite, rfl⟩
  · rw [hunpack] at hzero
    cases hzero
  · rw [hunpack] at hfinite
    cases hfinite
    norm_num

/-- Few digits make a significand that is exact, or at most one too small. -/
theorem few_digits_le_greatest
    {s n : Nat}
    {a b : ℚ}
    (hfew : 292 ≤ n)
    (hlarge : s * 10 ^ n ≤ writtenGreatest)
    (hx : HasValue (Float.ofNat s) a)
    (hs : Rounds s a)
    (hnonneg : 0 ≤ b)
    (hb : Rounds (10 ^ n : Nat) b) :
    a * b ≤ greatest := by
  rw [greatest_eq_cast]
  rcases Nat.eq_or_lt_of_le hfew with heq | hfewer
  · have hle : s ≤ 17976931348623157 := by
      rw [writtenGreatest, heq] at hlarge
      exact Nat.le_of_mul_le_mul_right hlarge (Nat.pow_pos (by decide))
    rw [← heq] at hb
    have ha : a ≤ (17976931348623156 : Nat) := by
      rcases Nat.eq_or_lt_of_le hle with rfl | hlt
      · exact (hasValue_significand_greatest hx).le
      · exact hs.le _ (onGrid_mul_two_pow (n := 8988465674311578) (by decide) 1)
          (Nat.cast_le.2 (Nat.le_of_lt_succ hlt))
    -- the double next above this power of ten
    have hb : b ≤ (4512985939662074 * 2 ^ 918 : Nat) :=
      hb.le _ (onGrid_mul_two_pow (by decide) 918) (Nat.cast_le.2 (by decide +kernel))
    have hproduct : 17976931348623156 * (4512985939662074 * 2 ^ 918) ≤ (2 ^ 53 - 1) * 2 ^ 971 := by
      decide +kernel
    calc
      a * b ≤ (17976931348623156 : Nat) * (4512985939662074 * 2 ^ 918 : Nat) :=
        mul_le_mul ha hb hnonneg (Nat.cast_nonneg _)
      _ = (17976931348623156 * (4512985939662074 * 2 ^ 918) : Nat) := (Nat.cast_mul _ _).symm
      _ ≤ ((2 ^ 53 - 1) * 2 ^ 971 : Nat) := Nat.cast_le.2 hproduct
  · obtain ⟨j, rfl⟩ : ∃ j, n = j + 293 := ⟨n - 293, by omega⟩
    have hsplit : ∀ i, s * 10 ^ (j + i) = s * 10 ^ j * 10 ^ i := by
      intro i
      rw [Nat.pow_add, Nat.mul_assoc]
    have hle : s * 10 ^ j ≤ 1797693134862315 := by
      have hdivided : writtenGreatest < 1797693134862316 * 10 ^ 293 := by decide +kernel
      rw [hsplit] at hlarge
      have hlt : s * 10 ^ j < 1797693134862316 :=
        Nat.lt_of_mul_lt_mul_right (a := 10 ^ 293) (hlarge.trans_lt hdivided)
      omega
    have hexact : s ≤ 2 ^ 53 := by
      have hpos : s ≤ s * 10 ^ j := Nat.le_mul_of_pos_right s (Nat.pow_pos (by decide))
      omega
    have ha : a ≤ s * (1 + 1 / 2 ^ 52) ^ 0 := by
      rw [pow_zero, mul_one]
      exact hs.le s (onGrid_nat hexact) le_rfl
    have hproduct : 1797693134862315 * 10 ^ 293 * (2 ^ 52 + 1) ^ (0 + 1) ≤
        (2 ^ 53 - 1) * 2 ^ 971 * (2 ^ 52) ^ (0 + 1) := by
      decide +kernel
    refine mul_le_of_rounds ha hb hnonneg (le_trans (Nat.mul_le_mul_right _ ?_) hproduct)
    rw [hsplit]
    exact Nat.mul_le_mul_right _ hle

/-- Digits that do not reach the greatest double are scaled to a double. -/
theorem scale?_readable
    {s n : Nat}
    (hlimit : s ≤ significandLimit)
    (h : Readable n (s * 10 ^ n : Nat)) :
    ∃ y, scale? (Float.ofNat s) n = some y := by
  obtain ⟨a, ha, hs⟩ := (computes_ofNat s).value (natCast_le_greatest hlimit)
  by_cases hn : n ≤ powerLimit
  · obtain ⟨b, hb, hpower⟩ := power_value hn
    have hpower : Rounds (10 ^ n : Nat) b := by
      rw [Nat.cast_pow, Nat.cast_ofNat]
      exact hpower
    refine scale?_of_le_greatest hn ha hb ?_
    rcases h with hsmall | ⟨hfew, hlarge⟩
    · have hsmall : s * 10 ^ n ≤ middle := Nat.cast_le.1 hsmall
      have hmiddle : middle * (2 ^ 52 + 1) ^ (1 + 1) ≤ (2 ^ 53 - 1) * 2 ^ 971 * (2 ^ 52) ^ (1 + 1) := by
        decide +kernel
      rw [greatest_eq_cast]
      refine mul_le_of_rounds ?_ hpower hb.nonneg (le_trans (Nat.mul_le_mul_right _ hsmall) hmiddle)
      rw [pow_one]
      exact hs.le_nat
    · exact few_digits_le_greatest (Int.ofNat_le.1 hfew) (Nat.cast_le.1 hlarge) ha hs hb.nonneg hpower
  · -- no significand but zero may have so great a power of ten
    have hzero : s = 0 := by
      by_contra hne
      have hle : s * 10 ^ n ≤ writtenGreatest := Nat.cast_le.1 h.le_writtenGreatest
      have hpower : 10 ^ (powerLimit + 1) ≤ 10 ^ n := Nat.pow_le_pow_right (by decide) (not_le.1 hn)
      have hexceeds : writtenGreatest < 10 ^ (powerLimit + 1) := by decide +kernel
      have hone : 10 ^ n ≤ s * 10 ^ n := Nat.le_mul_of_pos_left _ (Nat.pos_of_ne_zero hne)
      exact absurd (hpower.trans (hone.trans hle)) (Nat.not_le.2 hexceeds)
    refine ⟨Float.ofNat s, ?_⟩
    have hbeq : (Float.ofNat s == 0.0) = true := by
      rw [hzero]
      exact (hasValue_ofNat (Nat.zero_le _)).beq_zero.2 Nat.cast_zero
    rw [scale?, if_pos (by omega), if_neg (by omega), if_pos hbeq]

/-- Only a power of ten that is not below one can lead out of the doubles. -/
theorem scale?_of_neg
    (x : Float)
    {e : Int}
    (he : e < 0) :
    ∃ y, scale? x e = some y := by
  fun_induction scale? x e with
  | case1 => omega
  | case2 => omega
  | case3 => omega
  | case4 => omega
  | case5 => exact ⟨_, rfl⟩
  | case6 => exact ⟨_, rfl⟩
  | case7 x e hneg hlarge hzero ih => exact ih (by unfold powerLimit at *; omega)

theorem assemble_of_scale?
    (negative : Bool)
    {s : Nat}
    {e : Int}
    (h : ∃ y, scale? (Float.ofNat s) e = some y) :
    ∃ y, assemble negative s e = .float y := by
  obtain ⟨y, hy⟩ := h
  refine ⟨if negative then -y else y, ?_⟩
  rw [assemble, hy]

/-- Digits that can be read can be read when only the first of them are kept. -/
theorem Readable.truncate
    {d : Digits}
    (h : Readable d.exponent d.value)
    {s dropped : Nat}
    (hs : s * 10 ^ dropped ≤ d.digits)
    {n : Nat}
    (hn : (n : Int) = dropped + d.exponent) :
    Readable n (s * 10 ^ n : Nat) := by
  refine h.mono (by omega) ?_
  calc
    ((s * 10 ^ n : Nat) : ℚ) = s * 10 ^ (dropped + d.exponent) := by rw [natCast_mul_ten_pow, hn]
    _ = (s * 10 ^ dropped : Nat) * 10 ^ d.exponent := by
      rw [natCast_mul_ten_pow, zpow_add₀ (by norm_num), mul_assoc]
    _ ≤ d.value := mul_le_mul_of_nonneg_right (Nat.cast_le.2 hs) (by positivity)

end Decimal
end TournamentDesk
