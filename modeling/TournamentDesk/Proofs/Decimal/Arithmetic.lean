import Mathlib.Tactic.FieldSimp
import TournamentDesk.Decimal.Numeral
import TournamentDesk.Proofs.Decimal.Rounding

/-!
# Arithmetic of nonnegative doubles

Sums, products and quotients of nonnegative doubles, and the doubles nearest to natural numbers and
to powers of ten, are the exact results rounded, unless these are greater than all doubles.

* `computes_add`, `computes_mul`, `computes_div`: the operations.
* `computes_ofNat`, `computes_power`: the numbers to start from.
-/

namespace TournamentDesk
namespace Decimal

open Float.Model (Format UnpackedFloat)
open Float.Model.UnpackedFloat

/-- A double is an exact number rounded, or infinity if that is greater than all doubles. -/
def Computes (x : Float) (v : ℚ) : Prop :=
  (∃ w, HasValue x w ∧ Rounds v w) ∨ x.toModel.unpack = .infinity .positive ∧ greatest < v

theorem Computes.value
    {x : Float}
    {v : ℚ}
    (h : Computes x v)
    (hv : v ≤ greatest) :
    ∃ w, HasValue x w ∧ Rounds v w := by
  rcases h with hvalue | ⟨-, hlarge⟩
  · exact hvalue
  · exact absurd hv (not_le.2 hlarge)

/-- What a double can have stays as it is. -/
theorem OnGrid.rounds
    {v : ℚ}
    (h : OnGrid v) :
    Rounds v v := by
  refine ⟨fun _ _ hle => hle, fun _ _ hge => hge, fun hv => ?_⟩
  obtain ⟨k, f, hk, -, rfl⟩ := h
  have hk : (k : ℚ) ≤ 2 ^ 53 := by exact_mod_cast Nat.le_of_lt hk
  by_cases hsmall : f ≤ 0
  · have hone : (2 : ℚ) ^ f ≤ 1 := zpow_le_one_of_nonpos₀ (by norm_num) hsmall
    have hunit := two_zpow_pos f
    nlinarith
  · -- an even number
    obtain ⟨n, rfl⟩ : ∃ n : Nat, f = n + 1 := ⟨(f - 1).toNat, by omega⟩
    have heven : (k : ℚ) * 2 ^ ((n : Int) + 1) = (2 * (k * 2 ^ n) : Nat) := by
      rw [two_zpow_succ, zpow_natCast]
      push_cast
      ring
    rw [heven] at hv ⊢
    have hv : 2 * (k * 2 ^ n) ≤ 2 ^ 53 + 1 := by exact_mod_cast hv
    have hle : 2 * (k * 2 ^ n) ≤ 2 ^ 53 := by omega
    exact_mod_cast hle

theorem HasValue.computes
    {x : Float}
    {w : ℚ}
    (h : HasValue x w) :
    Computes x w :=
  Or.inl ⟨w, h, h.onGrid.rounds⟩

/-- Packing a double again does not change its value. -/
theorem HasValue.pack
    {x : Float}
    {w : ℚ}
    (h : HasValue x w) :
    HasValue (Float.ofModel (Float.Model.pack x.toModel.unpack)) w := by
  rcases h with ⟨hunpack, hw⟩ | ⟨m, e, hpos, hunpack, hw⟩
  · refine Or.inl ⟨?_, hw⟩
    rw [hunpack]
    exact unpack_pack_zero
  · refine Or.inr ⟨m, e, hpos, ?_, hw⟩
    rw [hunpack]
    exact unpack_pack (canonical_of_unpack hunpack)

theorem hasValue_pack_zero : HasValue (Float.ofModel (Float.Model.pack (.zero .positive))) 0 :=
  Or.inl ⟨unpack_pack_zero, rfl⟩

/-! ## Exact results -/

theorem ample_of_le
    {m : Nat}
    (h : 2 ^ 52 ≤ m)
    (e : Int) :
    Ample m e := by
  have hm : m ≠ 0 := by
    rintro rfl
    exact absurd h (by decide)
  exact Or.inl ((Nat.le_log2 hm).2 h)

theorem approximates_exact (m : Nat) (e : Int) :
    Approximates (.ofMantissaAndAccuracy m .exact) e (m * 2 ^ e) := by
  have hunit := two_zpow_pos e
  refine ⟨le_refl _, ?_, ?_, ?_⟩
  · change (m : ℚ) * 2 ^ e < (m + 1) * 2 ^ e
    nlinarith
  · rintro ⟨⟩
  · rintro ⟨⟩

/-- Digits enough for a double, rounded. -/
theorem computes_roundWithAccuracy
    {m : Nat}
    {e : Int}
    (hample : Ample m e) :
    Computes
      (Float.ofModel (Float.Model.pack (roundWithAccuracy Format.binary64 .positive m e .exact)))
      (m * 2 ^ e) :=
  pack_roundWithAccuracy (approximates_exact m e) hample

theorem two_zpow_shift
    {e f : Int}
    {s : Nat}
    (h : e = s + f) :
    (2 : ℚ) ^ e = 2 ^ s * 2 ^ f := by
  rw [h, zpow_add₀ (by norm_num), zpow_natCast]

/-- Zeros are appended as far as the exponent of the double asks for. -/
theorem computes_round
    {m : Nat}
    (hm : 0 < m)
    (e : Int) :
    Computes (Float.ofModel (Float.Model.pack (round Format.binary64 .positive m e))) (m * 2 ^ e) := by
  obtain ⟨t, ht⟩ : ∃ t, t = max (m.log2 + e - 52) (-1074) := ⟨_, rfl⟩
  obtain ⟨s, hs⟩ : ∃ s, s = (e - t).toNat := ⟨_, rfl⟩
  have hround : round Format.binary64 .positive m e =
      roundWithAccuracy Format.binary64 .positive (m * 2 ^ s) (e - s) .exact := by
    rw [UnpackedFloat.round, targetExponent_eq, ← ht]
    simp only [decreaseExponent, ← hs, Nat.shiftLeft_eq]
  have hvalue : (m : ℚ) * 2 ^ e = (m * 2 ^ s : Nat) * 2 ^ (e - s) := by
    rw [two_zpow_shift (e := e) (f := e - s) (s := s) (by omega)]
    push_cast
    ring
  have hlog : 2 ^ m.log2 ≤ m := Nat.log2_self_le (Nat.ne_of_gt hm)
  rw [hround, hvalue]
  refine computes_roundWithAccuracy ?_
  by_cases hsmall : e - s ≤ -1074
  · exact Or.inr hsmall
  · refine ample_of_le ?_ _
    calc
      2 ^ 52 ≤ 2 ^ (m.log2 + s) := Nat.pow_le_pow_right (by decide) (by omega)
      _ = 2 ^ m.log2 * 2 ^ s := Nat.pow_add 2 _ _
      _ ≤ m * 2 ^ s := Nat.mul_le_mul_right _ hlog

/-! ## Operations -/

theorem computes_add
    {x y : Float}
    {a b : ℚ}
    (hx : HasValue x a)
    (hy : HasValue y b) :
    Computes (x + y) (a + b) := by
  have hadd : x + y = Float.ofModel (Float.Model.pack
      (UnpackedFloat.add Format.binary64 x.toModel.unpack y.toModel.unpack)) := rfl
  rcases hx with ⟨hx, rfl⟩ | ⟨m, e, hm, hx, rfl⟩
  · have hsum : UnpackedFloat.add Format.binary64 x.toModel.unpack y.toModel.unpack =
        y.toModel.unpack := by
      rcases hy with ⟨hy, -⟩ | ⟨n, f, hn, hy, -⟩
      · rw [hx, hy]
        rfl
      · rw [hx, hy]
        rfl
    rw [hadd, hsum, zero_add]
    exact hy.pack.computes
  · rcases hy with ⟨hy, rfl⟩ | ⟨n, f, hn, hy, rfl⟩
    · have hsum : UnpackedFloat.add Format.binary64 x.toModel.unpack y.toModel.unpack =
          x.toModel.unpack := by
        rw [hx, hy]
        rfl
      rw [hadd, hsum, add_zero]
      exact HasValue.computes (HasValue.pack (Or.inr ⟨m, e, hm, hx, rfl⟩))
    · -- both summands are brought to the smaller exponent
      obtain ⟨g, hg⟩ : ∃ g, g = min e f := ⟨_, rfl⟩
      obtain ⟨s, hs⟩ : ∃ s, s = (e - g).toNat := ⟨_, rfl⟩
      obtain ⟨r, hr⟩ : ∃ r, r = (f - g).toNat := ⟨_, rfl⟩
      have hpos : 0 < m * 2 ^ s + n * 2 ^ r := by positivity
      have hsum : UnpackedFloat.add Format.binary64 x.toModel.unpack y.toModel.unpack =
          round Format.binary64 .positive (m * 2 ^ s + n * 2 ^ r) g := by
        rw [hx, hy]
        simp only [UnpackedFloat.add, decreaseExponent, ← hg, ← hs, ← hr, Nat.shiftLeft_eq, Sign.apply,
          UnpackedFloat.normalize]
        rw [← Nat.cast_add, Int.compare_eq_gt.2 (by exact_mod_cast hpos), Int.toNat_natCast]
      have hvalue : (m : ℚ) * 2 ^ e + n * 2 ^ f = (m * 2 ^ s + n * 2 ^ r : Nat) * 2 ^ g := by
        rw [two_zpow_shift (e := e) (f := g) (s := s) (by omega),
          two_zpow_shift (e := f) (f := g) (s := r) (by omega)]
        push_cast
        ring
      rw [hadd, hsum, hvalue]
      exact computes_round hpos g

theorem computes_mul
    {x y : Float}
    {a b : ℚ}
    (hx : HasValue x a)
    (hy : HasValue y b) :
    Computes (x * y) (a * b) := by
  have hmul : x * y = Float.ofModel (Float.Model.pack
      (UnpackedFloat.mul Format.binary64 x.toModel.unpack y.toModel.unpack)) := rfl
  rcases hx with ⟨hx, rfl⟩ | ⟨m, e, hm, hx, rfl⟩
  · have hzero : UnpackedFloat.mul Format.binary64 x.toModel.unpack y.toModel.unpack =
        .zero .positive := by
      rcases hy with ⟨hy, -⟩ | ⟨n, f, hn, hy, -⟩
      · rw [hx, hy]
        rfl
      · rw [hx, hy]
        rfl
    rw [hmul, hzero, zero_mul]
    exact hasValue_pack_zero.computes
  · rcases hy with ⟨hy, rfl⟩ | ⟨n, f, hn, hy, rfl⟩
    · have hzero : UnpackedFloat.mul Format.binary64 x.toModel.unpack y.toModel.unpack =
          .zero .positive := by
        rw [hx, hy]
        rfl
      rw [hmul, hzero, mul_zero]
      exact hasValue_pack_zero.computes
    · have hproduct : UnpackedFloat.mul Format.binary64 x.toModel.unpack y.toModel.unpack =
          roundWithAccuracy Format.binary64 .positive (m * n) (e + f) .exact := by
        rw [hx, hy]
        rfl
      have hvalue : (m : ℚ) * 2 ^ e * (n * 2 ^ f) = (m * n : Nat) * 2 ^ (e + f) := by
        rw [zpow_add₀ (by norm_num)]
        push_cast
        ring
      have hfull : 2 ^ 52 ≤ m * n ∨ e + f ≤ -1074 := by
        rcases (canonical_of_unpack hx).full with hbits | hleast
        · exact Or.inl (le_trans hbits (Nat.le_mul_of_pos_right m hn))
        · rcases (canonical_of_unpack hy).full with hbits | hleast'
          · exact Or.inl (le_trans hbits (Nat.le_mul_of_pos_left n hm))
          · exact Or.inr (by omega)
      rw [hmul, hproduct, hvalue]
      refine computes_roundWithAccuracy ?_
      rcases hfull with hbits | hleast
      · exact ample_of_le hbits _
      · exact Or.inr hleast

/-- A quotient with remainder describes the exact quotient. -/
theorem approximates_div
    (m : Nat)
    {n : Nat}
    (hn : 0 < n)
    (e : Int) :
    Approximates (.ofMantissaAndAccuracy (m / n) (accuracyOfFraction (m % n) n)) e (m / n * 2 ^ e) := by
  have hunit := two_zpow_pos e
  have hn' : (0 : ℚ) < n := by exact_mod_cast hn
  have hdivision : (m : ℚ) = n * (m / n : Nat) + (m % n : Nat) := by
    exact_mod_cast (Nat.div_add_mod m n).symm
  have hremainder : ((m % n : Nat) : ℚ) < n := by exact_mod_cast Nat.mod_lt m hn
  have hnonneg : (0 : ℚ) ≤ (m % n : Nat) := by positivity
  refine ⟨?_, ?_, ?_, ?_⟩
  · rw [mantissa_ofMantissaAndAccuracy]
    refine mul_le_mul_of_nonneg_right ?_ hunit.le
    rw [le_div_iff₀ hn']
    nlinarith
  · rw [mantissa_ofMantissaAndAccuracy]
    refine mul_lt_mul_of_pos_right ?_ hunit
    rw [div_lt_iff₀ hn']
    nlinarith
  · intro hbits
    rw [mantissa_ofMantissaAndAccuracy]
    refine mul_lt_mul_of_pos_right ?_ hunit
    have hinexact : m % n ≠ 0 := by
      intro hzero
      rw [hzero] at hbits
      cases hbits
    have hpos : (0 : ℚ) < (m % n : Nat) := by exact_mod_cast Nat.pos_of_ne_zero hinexact
    rw [lt_div_iff₀ hn']
    nlinarith
  · intro hbits
    rw [mantissa_ofMantissaAndAccuracy]
    refine mul_lt_mul_of_pos_right ?_ hunit
    have hupper : n < 2 * (m % n) := by
      unfold accuracyOfFraction at hbits
      split at hbits
      · cases hbits
      · cases horder : compare (2 * (m % n)) n with
        | gt => exact Nat.compare_eq_gt.1 horder
        | _ =>
            rw [horder] at hbits
            cases hbits
    have hupper : (n : ℚ) < 2 * (m % n : Nat) := by exact_mod_cast hupper
    rw [lt_div_iff₀ hn']
    nlinarith

/-- The numerator gets zeros appended until the quotient has digits enough. -/
theorem ample_div
    {m n s : Nat}
    {e t : Int}
    (hm : 0 < m)
    (hn : 0 < n)
    (ht : t ≤ max (m.log2 + e - n.log2 - 53) (-1074))
    (hs : e = s + t) :
    Ample (m * 2 ^ s / n) t := by
  by_cases hsmall : t ≤ -1074
  · exact Or.inr hsmall
  · refine ample_of_le ?_ t
    have hlog : 2 ^ m.log2 ≤ m := Nat.log2_self_le (Nat.ne_of_gt hm)
    have hlog' : n ≤ 2 ^ (n.log2 + 1) := Nat.le_of_lt Nat.lt_log2_self
    rw [Nat.le_div_iff_mul_le hn]
    calc
      2 ^ 52 * n ≤ 2 ^ 52 * 2 ^ (n.log2 + 1) := Nat.mul_le_mul_left _ hlog'
      _ = 2 ^ (52 + (n.log2 + 1)) := (Nat.pow_add 2 _ _).symm
      _ ≤ 2 ^ (m.log2 + s) := Nat.pow_le_pow_right (by decide) (by omega)
      _ = 2 ^ m.log2 * 2 ^ s := Nat.pow_add 2 _ _
      _ ≤ m * 2 ^ s := Nat.mul_le_mul_right _ hlog

theorem computes_div
    {x y : Float}
    {a b : ℚ}
    (hx : HasValue x a)
    (hy : HasValue y b)
    (hb : b ≠ 0) :
    Computes (x / y) (a / b) := by
  have hdiv : x / y = Float.ofModel (Float.Model.pack
      (UnpackedFloat.div Format.binary64 x.toModel.unpack y.toModel.unpack)) := rfl
  rcases hy with ⟨-, rfl⟩ | ⟨n, f, hn, hy, rfl⟩
  · exact absurd rfl hb
  · rcases hx with ⟨hx, rfl⟩ | ⟨m, e, hm, hx, rfl⟩
    · have hzero : UnpackedFloat.div Format.binary64 x.toModel.unpack y.toModel.unpack =
          .zero .positive := by
        rw [hx, hy]
        rfl
      rw [hdiv, hzero, zero_div]
      exact hasValue_pack_zero.computes
    · obtain ⟨t, ht⟩ : ∃ t, t = min (e - f) (Format.binary64.targetExponent
          (Float.Model.totalExponent m e - Float.Model.totalExponent n f)) := ⟨_, rfl⟩
      obtain ⟨s, hs⟩ : ∃ s, s = (e - f - t).toNat := ⟨_, rfl⟩
      have hquotient : UnpackedFloat.div Format.binary64 x.toModel.unpack y.toModel.unpack =
          roundWithAccuracy Format.binary64 .positive (m * 2 ^ s / n) t
            (accuracyOfFraction (m * 2 ^ s % n) n) := by
        rw [hx, hy]
        simp only [UnpackedFloat.div, divCore, ← ht, ← hs, Nat.shiftLeft_eq]
        rfl
      have hvalue : (m : ℚ) * 2 ^ e / (n * 2 ^ f) = ((m * 2 ^ s : Nat) : ℚ) / n * 2 ^ t := by
        have hn' : (n : ℚ) ≠ 0 := by exact_mod_cast Nat.ne_of_gt hn
        have hf := (two_zpow_pos f).ne'
        rw [two_zpow_shift (e := e) (f := t + f) (s := s) (by omega), zpow_add₀ (by norm_num)]
        push_cast
        field_simp
      have htarget : t ≤ max (m.log2 + (e - f) - n.log2 - 53) (-1074) := by
        have hle : t ≤ Format.binary64.targetExponent
            (Float.Model.totalExponent m e - Float.Model.totalExponent n f) := by omega
        simp only [Format.targetExponent, Float.Model.totalExponent, Format.mantissaBits,
          Format.minExponent] at hle
        norm_num at hle
        omega
      rw [hdiv, hquotient, hvalue]
      exact pack_roundWithAccuracy (approximates_div _ hn t)
        (ample_div hm hn htarget (by omega))

/-! ## Natural numbers and powers of ten -/

theorem le_greatest_of_le
    {w : ℚ}
    (h : w ≤ 2 ^ 54 - 2) :
    w ≤ greatest := by
  have htwo : (2 : ℚ) ^ (1 : Int) ≤ 2 ^ (971 : Int) := zpow_le_zpow_right₀ (by norm_num) (by decide)
  rw [zpow_one] at htwo
  calc
    w ≤ 2 ^ 54 - 2 := h
    _ = (2 ^ 53 - 1 : Nat) * 2 := by norm_num
    _ ≤ (2 ^ 53 - 1 : Nat) * 2 ^ (971 : Int) := mul_le_mul_of_nonneg_left htwo (by positivity)

theorem nat_le_greatest
    {n : Nat}
    (h : n ≤ 2 ^ 53) :
    (n : ℚ) ≤ greatest := by
  have hn : (n : ℚ) ≤ 2 ^ 53 := by exact_mod_cast h
  exact le_greatest_of_le (hn.trans (by norm_num))

/-- A small whole number is computed exactly. -/
theorem Computes.nat
    {x : Float}
    {n : Nat}
    (h : Computes x n)
    (hn : n ≤ 2 ^ 53) :
    HasValue x n := by
  obtain ⟨w, hw, hrounds⟩ := h.value (nat_le_greatest hn)
  have hgrid := onGrid_nat hn
  have hexact : w = n := le_antisymm (hrounds.le _ hgrid le_rfl) (hrounds.ge _ hgrid le_rfl)
  rw [← hexact]
  exact hw

/-- A small natural number is a double. -/
theorem hasValue_toFloat
    {n : Nat}
    (h : n < 2 ^ 53) :
    HasValue n.toUInt64.toFloat n := by
  have hsize : n.toUInt64.toNat = n := Nat.mod_eq_of_lt (by omega)
  have hfloat : n.toUInt64.toFloat = Float.ofModel (Float.Model.pack
      (normalize Format.binary64 (n.toUInt64.toNat : Int) 0 .positive)) := rfl
  rw [hfloat, hsize]
  rcases Nat.eq_zero_or_pos n with rfl | hpos
  · rw [Nat.cast_zero]
    exact hasValue_pack_zero
  · have hround : normalize Format.binary64 (n : Int) 0 .positive =
        round Format.binary64 .positive n 0 := by
      rw [UnpackedFloat.normalize, Int.compare_eq_gt.2 (by exact_mod_cast hpos)]
      rfl
    have hcomputes := computes_round hpos 0
    rw [zpow_zero, mul_one] at hcomputes
    rw [hround]
    exact hcomputes.nat (Nat.le_of_lt h)

theorem computes_ofScientific
    {m : Nat}
    (hm : 0 < m)
    {n : Nat}
    (hn : n ≤ 2 ^ 11) :
    Computes (Float.ofModel (Float.Model.ofScientific m n)) (m * 10 ^ n) := by
  have hscientific : UnpackedFloat.ofScientific Format.binary64 m n =
      roundWithAccuracy Format.binary64 .positive (m * 2 ^ 53 * 10 ^ n) (-53) .exact := by
    rw [UnpackedFloat.ofScientific, dif_neg (Nat.ne_of_gt hm), if_neg, if_neg, if_pos]
    · rw [← Nat.shiftLeft_eq]
      rfl
    · exact Int.natCast_nonneg n
    · change ¬ (n : Int) < -(2048 + (m.log2 : Int))
      omega
    · change ¬ (n : Int) > 2048
      omega
  have hvalue : (m : ℚ) * 10 ^ n = (m * 2 ^ 53 * 10 ^ n : Nat) * 2 ^ (-53 : Int) := by
    rw [zpow_neg]
    push_cast
    field_simp
  have hlarge : 2 ^ 52 ≤ m * 2 ^ 53 * 10 ^ n := by
    calc
      2 ^ 52 ≤ 1 * 2 ^ 53 * 1 := by decide
      _ ≤ m * 2 ^ 53 * 10 ^ n :=
        Nat.mul_le_mul (Nat.mul_le_mul_right _ hm) (Nat.one_le_pow _ _ (by decide))
  rw [Float.Model.ofScientific, hscientific, hvalue]
  exact computes_roundWithAccuracy (ample_of_le hlarge _)

/-- A natural number. Those below `2 ^ 53` are exact, and multiplied by one. -/
theorem computes_ofNat (n : Nat) : Computes (Float.ofNat n) n := by
  have hofNat : Float.ofNat n = Float.ofScientific n false 0 := rfl
  rw [hofNat, Float.ofScientific]
  by_cases hsmall : n < 2 ^ 53
  · rw [dif_pos ⟨hsmall, Nat.zero_le 22⟩]
    have hone : HasValue (Float.ofBits 0x3FF0000000000000) 1 := by
      refine Or.inr ⟨2 ^ 52, -52, by decide, rfl, ?_⟩
      norm_num
    have hproduct := computes_mul (hasValue_toFloat hsmall) hone
    rw [mul_one] at hproduct
    exact hproduct
  · rw [dif_neg fun h => hsmall h.1]
    have hcomputes := computes_ofScientific (m := n) (n := 0) (by omega) (by decide)
    rw [pow_zero, mul_one] at hcomputes
    exact hcomputes

/-- The powers of ten from a table are the right ones. -/
theorem power_eq_round :
    ∀ n ≤ 22, power n = Float.ofModel (Float.Model.pack (round Format.binary64 .positive (10 ^ n) 0)) := by
  decide +kernel

theorem computes_power
    {n : Nat}
    (h : n ≤ powerLimit) :
    Computes (power n) (10 ^ n) := by
  by_cases hsmall : n ≤ 22
  · have hcomputes := computes_round (m := 10 ^ n) (by positivity) 0
    rw [zpow_zero, mul_one] at hcomputes
    push_cast at hcomputes
    rw [power_eq_round n hsmall]
    exact hcomputes
  · have hcomputes := computes_ofScientific (m := 1) (n := n) (by decide) (by unfold powerLimit at h; omega)
    rw [Nat.cast_one, one_mul] at hcomputes
    rw [power, Float.ofScientific, dif_neg fun h => hsmall h.2]
    exact hcomputes

/-! ## Small whole numbers -/

theorem hasValue_ofNat
    {n : Nat}
    (h : n ≤ 2 ^ 53) :
    HasValue (Float.ofNat n) n :=
  Computes.nat (computes_ofNat n) h

theorem HasValue.add_nat
    {x y : Float}
    {a b : Nat}
    (hx : HasValue x a)
    (hy : HasValue y b)
    (h : a + b ≤ 2 ^ 53) :
    HasValue (x + y) (a + b : Nat) := by
  refine Computes.nat ?_ h
  rw [Nat.cast_add]
  exact computes_add hx hy

theorem HasValue.mul_nat
    {x y : Float}
    {a b : Nat}
    (hx : HasValue x a)
    (hy : HasValue y b)
    (h : a * b ≤ 2 ^ 53) :
    HasValue (x * y) (a * b : Nat) := by
  refine Computes.nat ?_ h
  rw [Nat.cast_mul]
  exact computes_mul hx hy

theorem hasValue_one : HasValue 1.0 (1 : Nat) := by
  refine Or.inr ⟨2 ^ 52, -52, by decide, rfl, ?_⟩
  norm_num

theorem hasValue_three : HasValue 3.0 (3 : Nat) := by
  refine Or.inr ⟨3 * 2 ^ 51, -51, by decide, rfl, ?_⟩
  norm_num

end Decimal
end TournamentDesk
