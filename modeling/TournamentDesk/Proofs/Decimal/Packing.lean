import Mathlib
import TournamentDesk.Decimal.Layout

/-!
# Doubles and their bits

A positive double has one canonical form: a significand of 53 bits and an exponent of two, or the
least exponent and a smaller significand. Packing a canonical form into bits and unpacking the bits
gives it back, and these are also the significand and the exponent from which it is written.

* `unpack_pack`: a canonical form survives packing.
* `ofBits?_of_unpack`: a positive double is written from its canonical form.
-/

namespace TournamentDesk
namespace Decimal

open Float.Model (Format UnpackedFloat)
open Float.Model.UnpackedFloat

/-- A significand and an exponent that are the canonical form of a double. -/
structure Canonical (m : Nat) (e : Int) : Prop where
  /-- The double is not zero. -/
  pos : 0 < m
  /-- The significand has at most 53 bits. -/
  bits : m < 2 ^ 53
  /-- The exponent is not too small. -/
  low : -1074 ≤ e
  /-- The exponent is not too large. -/
  high : e ≤ 971
  /-- The significand has 53 bits unless the exponent is the least one. -/
  full : 2 ^ 52 ≤ m ∨ e = -1074

/-! ## Packing -/

/-- The leading bit of a full significand is not stored. -/
theorem toNat_leading (fraction : BitVec 52) : (1#1 ++ fraction).toNat = 2 ^ 52 + fraction.toNat := by
  rw [BitVec.toNat_append, ← Nat.shiftLeft_add_eq_or_of_lt fraction.isLt]
  rfl

theorem unpack_pack_zero : (Float.Model.pack (.zero .positive)).unpack = .zero .positive := by
  rfl

theorem unpack_pack_infinity :
    (Float.Model.pack (.infinity .positive)).unpack = .infinity .positive := by
  rfl

theorem toNat_ofNat_of_lt
    {width n : Nat}
    (h : n < 2 ^ width) :
    (BitVec.ofNat width n).toNat = n := by
  rw [BitVec.toNat_ofNat, Nat.mod_eq_of_lt h]

/-- A full significand, stored without its leading bit. -/
theorem unpack_full
    {m : Nat}
    {e : Int}
    (h : Canonical m e)
    (hnormal : 2 ^ 52 ≤ m) :
    unpack Format.binary64 (packComponents Format.binary64 .positive
      (BitVec.ofNat 11 (e + 1075).toNat) (BitVec.ofNat 52 m)) = .finite .positive m e h.pos := by
  obtain ⟨hpos, hbits, hlow, hhigh, hfull⟩ := h
  have hexponent : (BitVec.ofNat 11 (e + 1075).toNat).toNat = (e + 1075).toNat :=
    toNat_ofNat_of_lt (by omega)
  have hne_ones : BitVec.ofNat 11 (e + 1075).toNat ≠ -1#11 := by
    intro heq
    have := congrArg BitVec.toNat heq
    rw [hexponent] at this
    change (e + 1075).toNat = 2047 at this
    omega
  have hne_zero : BitVec.ofNat 11 (e + 1075).toNat ≠ 0#11 := by
    intro heq
    have := congrArg BitVec.toNat heq
    rw [hexponent] at this
    change (e + 1075).toNat = 0 at this
    omega
  have hfraction : (BitVec.ofNat 52 m).toNat = m - 2 ^ 52 := by
    rw [BitVec.toNat_ofNat]
    omega
  simp only [UnpackedFloat.unpack, unpackExponent_packComponents, unpackMantissa_packComponents,
    unpackSign_packComponents, Sign.ofBitVec_toBitVec, hne_ones, hne_zero, if_false, hexponent,
    toNat_leading, hfraction]
  have hm : 2 ^ 52 + (m - 2 ^ 52) = m := by omega
  have he : ((e + 1075).toNat : Int) - ((Format.binary64.exponentBias : Nat) + (52 : Nat)) = e := by
    rw [show (Format.binary64.exponentBias : Nat) = 1023 from rfl]
    omega
  simp only [hm, he]

/-- A smaller significand, stored as it is. -/
theorem unpack_small
    {m : Nat}
    {e : Int}
    (h : Canonical m e)
    (hsmall : m < 2 ^ 52) :
    unpack Format.binary64 (packComponents Format.binary64 .positive 0#11 (BitVec.ofNat 52 m)) =
      .finite .positive m e h.pos := by
  obtain ⟨hpos, hbits, hlow, hhigh, hfull⟩ := h
  have hfraction : (BitVec.ofNat 52 m).toNat = m := toNat_ofNat_of_lt hsmall
  have hne_zero : BitVec.ofNat 52 m ≠ 0#52 := by
    intro heq
    have := congrArg BitVec.toNat heq
    rw [hfraction] at this
    change m = 0 at this
    omega
  have he : e = -1074 := hfull.resolve_left (Nat.not_le.2 hsmall)
  simp only [UnpackedFloat.unpack, unpackExponent_packComponents, unpackMantissa_packComponents,
    unpackSign_packComponents, Sign.ofBitVec_toBitVec]
  rw [if_neg (by decide), if_pos trivial, dif_neg hne_zero]
  congr 1
  rw [he]
  rfl

theorem unpack_pack
    {m : Nat}
    {e : Int}
    (h : Canonical m e) :
    (Float.Model.pack (.finite .positive m e h.pos)).unpack = .finite .positive m e h.pos := by
  have hpos := h.pos
  have hhigh := h.high
  have hbiased : (e + (Format.binary64.exponentBias : Nat) + (52 : Nat)).toNat = (e + 1075).toNat := by
    rw [show (Format.binary64.exponentBias : Nat) = 1023 from rfl]
    omega
  have hfits : ¬ 2 ^ 11 ≤ (e + 1075).toNat + 1 := by omega
  simp only [Float.Model.unpack, Float.Model.pack, UnpackedFloat.pack, hbiased, if_neg hfits]
  by_cases hnormal : 2 ^ 52 ≤ m
  · have hlog : m.log2 + 1 = Format.binary64.mantissaBits := by
      rw [(Nat.log2_eq_iff (Nat.ne_of_gt hpos)).2 ⟨hnormal, h.bits⟩]
      rfl
    rw [if_pos hlog]
    exact unpack_full h hnormal
  · have hlog : ¬ m.log2 + 1 = Format.binary64.mantissaBits := by
      have := (Nat.log2_lt (Nat.ne_of_gt hpos)).2 (Nat.not_le.1 hnormal)
      change ¬ m.log2 + 1 = 53
      omega
    rw [if_neg hlog]
    exact unpack_small h (Nat.not_le.1 hnormal)

/-! ## Unpacking -/

/-- The stored exponent of a double given by its bits. -/
def storedExponent (bits : Nat) : Nat :=
  bits / 2 ^ 52 % 2 ^ 11

theorem toNat_unpackExponent (b : BitVec Format.binary64.numBits) :
    (unpackExponent b : BitVec Format.binary64.exponentBits).toNat = storedExponent b.toNat := by
  simp [unpackExponent, BitVec.extractLsb, Nat.shiftRight_eq_div_pow, storedExponent]

theorem toNat_unpackMantissa (b : BitVec Format.binary64.numBits) :
    (unpackMantissa b : BitVec Format.binary64.mantissaBitsWithoutImplicit).toNat =
      b.toNat % 2 ^ 52 := by
  simp [unpackMantissa, BitVec.extractLsb]

theorem toNat_unpackSign (b : BitVec Format.binary64.numBits) :
    (unpackSign b).toNat = b.toNat / 2 ^ 63 % 2 := by
  simp [unpackSign, BitVec.extractLsb, Nat.shiftRight_eq_div_pow]

theorem sign_eq_positive
    {b : BitVec Format.binary64.numBits}
    (h : Sign.ofBitVec (unpackSign b) = .positive) :
    b.toNat / 2 ^ 63 = 0 := by
  have hsign : unpackSign b = 0#1 := by
    by_contra hne
    rw [Sign.ofBitVec, if_neg hne] at h
    cases h
  have hzero := toNat_unpackSign b
  rw [hsign] at hzero
  change 0 = b.toNat / 2 ^ 63 % 2 at hzero
  have hlt : b.toNat < 2 ^ 64 := b.isLt
  omega

/-- The bits of a positive double. -/
theorem fields_of_finite
    {x : Float.Model}
    {m : Nat}
    {e : Int}
    {hpos : 0 < m}
    (h : x.unpack = .finite .positive m e hpos) :
    x.toBits.toNat / 2 ^ 63 = 0 ∧ storedExponent x.toBits.toNat < 2047 ∧
      m = x.toBits.toNat % 2 ^ 52 + (if storedExponent x.toBits.toNat = 0 then 0 else 2 ^ 52) ∧
      e = (if storedExponent x.toBits.toNat = 0 then 1 else storedExponent x.toBits.toNat) - 1075 := by
  have hexponent := toNat_unpackExponent x.toBits.toBitVec
  have hfraction := toNat_unpackMantissa x.toBits.toBitVec
  have hlt : storedExponent x.toBits.toNat < 2 ^ 11 := Nat.mod_lt _ (by decide)
  change _ = storedExponent x.toBits.toNat at hexponent
  change _ = x.toBits.toNat % 2 ^ 52 at hfraction
  unfold Float.Model.unpack UnpackedFloat.unpack at h
  simp only at h
  split at h
  · split at h <;> cases h
  · next hones =>
    have hne_ones : storedExponent x.toBits.toNat ≠ 2047 := by
      intro heq
      exact hones (BitVec.eq_of_toNat_eq (hexponent.trans heq))
    split at h
    · next hzero =>
      have hstored : storedExponent x.toBits.toNat = 0 := by
        rw [← hexponent, hzero]
        rfl
      split at h
      · cases h
      · simp only [UnpackedFloat.finite.injEq] at h
        obtain ⟨hsign, hm, he⟩ := h
        refine ⟨sign_eq_positive hsign, by omega, ?_, ?_⟩
        · rw [if_pos hstored, ← hm, hfraction, Nat.add_zero]
        · rw [if_pos hstored, ← he, hexponent, hstored]
          rfl
    · next hzero =>
      have hstored : storedExponent x.toBits.toNat ≠ 0 := by
        intro heq
        exact hzero (BitVec.eq_of_toNat_eq (hexponent.trans heq))
      simp only [UnpackedFloat.finite.injEq] at h
      obtain ⟨hsign, hm, he⟩ := h
      refine ⟨sign_eq_positive hsign, by omega, ?_, ?_⟩
      · rw [if_neg hstored, ← hm, toNat_leading, hfraction, Nat.add_comm]
      · rw [if_neg hstored, ← he, hexponent]
        rfl

theorem canonical_of_unpack
    {x : Float.Model}
    {m : Nat}
    {e : Int}
    {hpos : 0 < m}
    (h : x.unpack = .finite .positive m e hpos) :
    Canonical m e := by
  obtain ⟨-, hlt, hm, he⟩ := fields_of_finite h
  have hfraction : x.toBits.toNat % 2 ^ 52 < 2 ^ 52 := Nat.mod_lt _ (by decide)
  split at hm
  · next hzero =>
    rw [if_pos hzero] at he
    exact ⟨hpos, by omega, by omega, by omega, by omega⟩
  · next hzero =>
    rw [if_neg hzero] at he
    exact ⟨hpos, by omega, by omega, by omega, by omega⟩

/-- A positive double is written from its canonical form. -/
theorem ofBits?_of_unpack
    {x : Float}
    {m : Nat}
    {e : Int}
    {hpos : 0 < m}
    (h : x.toModel.unpack = .finite .positive m e hpos) :
    (∃ atStep, Binary.ofBits? x.toBits = some ⟨m, e, atStep⟩) ∧ isNegative x.toBits = false := by
  obtain ⟨hsign, hlt, hm, he⟩ := fields_of_finite h
  change x.toBits.toNat / 2 ^ 63 = 0 at hsign
  change m = x.toBits.toNat % 2 ^ 52 + (if storedExponent x.toBits.toNat = 0 then 0 else 2 ^ 52) at hm
  change e = (if storedExponent x.toBits.toNat = 0 then (1 : Nat) else storedExponent x.toBits.toNat) - 1075 at he
  change storedExponent x.toBits.toNat < 2047 at hlt
  constructor
  · unfold Binary.ofBits?
    change ∃ atStep, (if storedExponent x.toBits.toNat = 2047 then none
      else if storedExponent x.toBits.toNat = 0 then some _ else some _) = _
    rw [if_neg (by omega)]
    by_cases hzero : storedExponent x.toBits.toNat = 0
    · rw [if_pos hzero] at hm he ⊢
      refine ⟨false, ?_⟩
      rw [hm, he]
      rfl
    · rw [if_neg hzero] at hm he ⊢
      refine ⟨x.toBits.toNat % 2 ^ 52 = 0 && 1 < storedExponent x.toBits.toNat, ?_⟩
      rw [hm, he, Nat.add_comm]
      rfl
  · rw [isNegative]
    change decide (x.toBits.toNat / 2 ^ 63 = 1) = false
    rw [hsign]
    rfl

theorem ofBits?_of_unpack_zero
    {x : Float}
    (h : x.toModel.unpack = .zero .positive) :
    Binary.ofBits? x.toBits = some ⟨0, -1074, false⟩ ∧ isNegative x.toBits = false := by
  have hexponent := toNat_unpackExponent x.toModel.toBits.toBitVec
  have hfraction := toNat_unpackMantissa x.toModel.toBits.toBitVec
  change _ = storedExponent x.toBits.toNat at hexponent
  change _ = x.toBits.toNat % 2 ^ 52 at hfraction
  unfold Float.Model.unpack UnpackedFloat.unpack at h
  simp only at h
  split at h
  · split at h <;> cases h
  · split at h
    · next hzero =>
      split at h
      · next hempty =>
        have hsign := sign_eq_positive (UnpackedFloat.zero.inj h)
        rw [hzero] at hexponent
        rw [hempty] at hfraction
        change 0 = storedExponent x.toBits.toNat at hexponent
        change 0 = x.toBits.toNat % 2 ^ 52 at hfraction
        change x.toBits.toNat / 2 ^ 63 = 0 at hsign
        constructor
        · unfold Binary.ofBits?
          change (if storedExponent x.toBits.toNat = 2047 then none
            else if storedExponent x.toBits.toNat = 0 then
              some (Binary.mk (x.toBits.toNat % 2 ^ 52) (-1074) false) else some _) = _
          rw [← hexponent, ← hfraction]
          rfl
        · rw [isNegative]
          change decide (x.toBits.toNat / 2 ^ 63 = 1) = false
          rw [hsign]
          rfl
      · cases h
    · cases h

/-- A finite double, of either sign, is written with digits. -/
theorem ofBits?_of_isFinite
    {x : Float}
    (h : x.isFinite = true) :
    ∃ v, Binary.ofBits? x.toBits = some v := by
  have hexponent := toNat_unpackExponent x.toModel.toBits.toBitVec
  change _ = storedExponent x.toBits.toNat at hexponent
  have hstored : storedExponent x.toBits.toNat ≠ 2047 := by
    intro heq
    change (UnpackedFloat.unpack Format.binary64 x.toModel.toBits.toBitVec).isFinite = true at h
    unfold UnpackedFloat.unpack at h
    simp only at h
    split at h
    · split at h <;> cases h
    · next hones => exact hones (BitVec.eq_of_toNat_eq (hexponent.trans heq))
  unfold Binary.ofBits?
  change ∃ v, (if storedExponent x.toBits.toNat = 2047 then none
    else if storedExponent x.toBits.toNat = 0 then some _ else some _) = some v
  rw [if_neg hstored]
  split
  · exact ⟨_, rfl⟩
  · exact ⟨_, rfl⟩

end Decimal
end TournamentDesk
