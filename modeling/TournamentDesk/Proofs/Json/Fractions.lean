import TournamentDesk.Json.Record
import TournamentDesk.Proofs.Decimal.Fractions
import TournamentDesk.Proofs.Json.RoundTrip

/-!
# Fractions and back

Percentages are written with the shortest digits but read by one division, so they may come back
changed in their last places. A double between zero and one comes back as a double between zero and
one all the same.

* `readFloat_fraction`: a written double between zero and one is read as one.
-/

namespace TournamentDesk
namespace Json

open Decimal (Binary Canonical Digits Fraction Literal)
open Text (AreDigits areDigits_toDigits areDigits_zero isDigit_cases)

/-! ## Significands -/

theorem gather_le
    {s : Nat}
    (hs : s ≤ Decimal.significandLimit)
    (ds : List Nat) :
    (Decimal.gather s ds).1 ≤ Decimal.significandLimit := by
  induction ds generalizing s with
  | nil => exact hs
  | cons d ds ih =>
      rw [Decimal.gather]
      split
      · next hfits => exact ih hfits
      · exact hs

/-- Digits that are taken in add as many places. -/
theorem gather_lt
    {ds : List Nat}
    (hds : ∀ d ∈ ds, d ≤ 9)
    (s : Nat) :
    (Decimal.gather s ds).1 < (s + 1) * 10 ^ (Decimal.gather s ds).2 := by
  induction ds generalizing s with
  | nil => simp [Decimal.gather]
  | cons d ds ih =>
      rw [Decimal.gather]
      split
      · have hd : d ≤ 9 := hds d List.mem_cons_self
        have ih := ih (fun d hd => hds d (List.mem_cons_of_mem _ hd)) (s * 10 + d)
        calc
          (Decimal.gather (s * 10 + d) ds).1
              < (s * 10 + d + 1) * 10 ^ (Decimal.gather (s * 10 + d) ds).2 := ih
          _ ≤ ((s + 1) * 10) * 10 ^ (Decimal.gather (s * 10 + d) ds).2 :=
            Nat.mul_le_mul_right _ (by omega)
          _ = (s + 1) * 10 ^ ((Decimal.gather (s * 10 + d) ds).2 + 1) := by
            rw [Nat.pow_succ, Nat.mul_assoc, Nat.mul_comm 10]
      · simp

/-- A number with one digit before the point that is not written as a whole number. -/
theorem literal_value
    (negative : Bool)
    {d : Nat}
    (hd : d ≤ 9)
    {fraction : Option (List Nat)}
    {exponent : Option Int}
    (hparts : (fraction.isNone && exponent.isNone) = false) :
    (Literal.mk negative [d] fraction exponent).value =
      Decimal.assemble negative (Decimal.gather d (fraction.getD [])).1
        (-(Decimal.gather d (fraction.getD [])).2 + exponent.getD 0) := by
  have hgather : Decimal.gather 0 [d] = (d, 1) := by
    have hfits : 0 * 10 + d ≤ Decimal.significandLimit := by
      unfold Decimal.significandLimit
      omega
    rw [Decimal.gather, if_pos hfits]
    simp [Decimal.gather]
  simp [Literal.value, hgather, hparts]

theorem digitValue_le
    {c : Char}
    (hc : c.isDigit = true) :
    digitValue c ≤ 9 := by
  have hcases := isDigit_cases hc
  simp only [List.mem_cons, List.not_mem_nil, or_false] at hcases
  rcases hcases with rfl | rfl | rfl | rfl | rfl | rfl | rfl | rfl | rfl | rfl <;> decide

theorem digitValues_le
    {cs : List Char}
    (h : ∀ c ∈ cs, c.isDigit = true) :
    ∀ d ∈ cs.map digitValue, d ≤ 9 := by
  intro d hd
  obtain ⟨c, hc, rfl⟩ := List.mem_map.1 hd
  exact digitValue_le (h c hc)

/-! ## Written numbers below one -/

/-- One digit before the point, and a power of ten that takes the significand below one. -/
theorem literal_fraction
    {d : Nat}
    {fraction : Option (List Nat)}
    {exponent : Option Int}
    (hparts : (fraction.isNone && exponent.isNone) = false)
    (hds : ∀ i ∈ d :: fraction.getD [], i ≤ 9)
    {n : Nat}
    (hn : -((Decimal.gather d (fraction.getD [])).2 : Int) + exponent.getD 0 = -n)
    (hpos : 1 ≤ n)
    (hsmall : (d + 1) * 10 ^ (Decimal.gather d (fraction.getD [])).2 ≤ 10 ^ n) :
    ∃ y, (Literal.mk false [d] fraction exponent).value = .float y ∧ Fraction y := by
  have hd : d ≤ 9 := hds d List.mem_cons_self
  have hlt := gather_lt (fun i hi => hds i (List.mem_cons_of_mem _ hi)) d
  rw [literal_value false hd hparts, hn]
  refine Decimal.assemble_fraction (gather_le ?_ _) (Nat.le_of_lt (lt_of_lt_of_le hlt hsmall)) hpos
  unfold Decimal.significandLimit
  omega

/-- Nothing but zero stands before the point. -/
theorem literal_zero_fraction
    {cs : List Char}
    (hcs : AreDigits cs) :
    ∃ y, ((Spelling.mk ['0'] (some cs) none).literal false).value = .float y ∧ Fraction y := by
  have hvalues := digitValues_le hcs.2
  have htaken : 1 ≤ (Decimal.gather 0 (cs.map digitValue)).2 := by
    obtain ⟨c, cs, rfl⟩ := List.exists_cons_of_ne_nil hcs.1
    have hc : digitValue c ≤ 9 := hvalues _ List.mem_cons_self
    have hfits : 0 * 10 + digitValue c ≤ Decimal.significandLimit := by
      unfold Decimal.significandLimit
      omega
    rw [List.map_cons, Decimal.gather, if_pos hfits]
    exact Nat.le_add_left 1 _
  refine literal_fraction (d := 0) rfl ?_ (Int.add_zero _) htaken ?_
  · intro i hi
    rcases List.mem_cons.1 hi with rfl | hi
    · exact Nat.zero_le 9
    · exact hvalues i hi
  · rw [Nat.zero_add, Nat.one_mul]

/-- A negative exponent stands behind one digit and perhaps more behind the point. -/
theorem literal_exponent_fraction
    {c : Char}
    {fraction : Option (List Char)}
    {e : Int}
    (hvalid : (Spelling.mk [c] fraction (some e)).Valid)
    (he : e < 0) :
    ∃ y, ((Spelling.mk [c] fraction (some e)).literal false).value = .float y ∧ Fraction y := by
  have hc : digitValue c ≤ 9 := digitValue_le (hvalid.whole.2 c List.mem_cons_self)
  have hds : ∀ i ∈ (fraction.map fun ds => ds.map digitValue).getD [], i ≤ 9 := by
    cases hfraction : fraction with
    | none => simp
    | some ds => exact digitValues_le (hvalid.fraction ds hfraction).2
  obtain ⟨taken, htaken⟩ : ∃ taken,
      taken = (Decimal.gather (digitValue c) ((fraction.map fun ds => ds.map digitValue).getD [])).2 :=
    ⟨_, rfl⟩
  refine literal_fraction (d := digitValue c) (n := taken + (-e).toNat) (by simp) ?_ ?_ (by omega) ?_
  · intro i hi
    rcases List.mem_cons.1 hi with rfl | hi
    · exact hc
    · exact hds i hi
  · rw [← htaken]
    change -(taken : Int) + e = _
    omega
  · rw [← htaken, Nat.pow_add, Nat.mul_comm]
    refine Nat.mul_le_mul_left _ ?_
    calc
      digitValue c + 1 ≤ 10 ^ 1 := by omega
      _ ≤ 10 ^ (-e).toNat := Nat.pow_le_pow_right (by decide) (by omega)

/-- Digits that stand for a number below one are written behind a zero and a point, or with a negative
exponent. -/
theorem spelling_below_one
    {d : Digits}
    (hd : d.digits ≠ 0)
    (hone : d.BelowOne) :
    (∃ cs, spelling Decimal.recordLayout d = ⟨['0'], some cs, none⟩) ∨
      ∃ c fraction e, spelling Decimal.recordLayout d = ⟨[c], fraction, some e⟩ ∧ e < 0 := by
  obtain ⟨hexponent, hdigits⟩ := hone
  have hnegative : d.exponent ≠ 0 := by
    intro hzero
    rw [hzero] at hdigits
    change d.digits < 1 at hdigits
    omega
  have hlength : (Nat.toDigits 10 d.digits).length ≤ (-d.exponent).toNat :=
    (Nat.length_toDigits_le_iff (by decide) (by omega)).2 hdigits
  obtain ⟨c, cs, hcs⟩ := List.exists_cons_of_ne_nil (areDigits_toDigits d.digits).1
  rw [hcs] at hlength
  unfold spelling
  simp only [Bool.and_eq_true, decide_eq_true_eq]
  rw [hcs, if_neg (by omega), if_neg (by omega)]
  split
  · exact Or.inl ⟨_, rfl⟩
  · exact Or.inr ⟨c, _, _, rfl, by omega⟩

theorem spelling_fraction
    {d : Digits}
    (hd : d.digits ≠ 0)
    (hone : d.BelowOne) :
    ∃ y, ((spelling Decimal.recordLayout d).literal false).value = .float y ∧ Fraction y := by
  have hvalid := spelling_valid Decimal.recordLayout hd
  rcases spelling_below_one hd hone with ⟨cs, hcs⟩ | ⟨c, fraction, e, he, hnegative⟩
  · rw [hcs] at hvalid ⊢
    exact literal_zero_fraction (hvalid.fraction cs rfl)
  · rw [he] at hvalid ⊢
    exact literal_exponent_fraction hvalid hnegative

/-! ## Doubles between zero and one -/

/-- A double of at most one is one, or its magnitude is below one. -/
theorem canonical_le_one
    {m : Nat}
    {e : Int}
    (h : Canonical m e)
    (hone : (m : ℚ) * 2 ^ e ≤ 1) :
    (m = 2 ^ 52 ∧ e = -52) ∨ e ≤ 0 ∧ m < 2 ^ (-e).toNat := by
  have hm : (1 : ℚ) ≤ m := by exact_mod_cast h.pos
  have hexponent : e ≤ 0 := by
    by_contra hpos
    have htwo : (2 : ℚ) ^ (1 : Int) ≤ 2 ^ e := zpow_le_zpow_right₀ (by norm_num) (by omega)
    rw [zpow_one] at htwo
    nlinarith
  have hunit := Decimal.two_zpow_pos e
  have hshift : (2 : ℚ) ^ (-e).toNat * 2 ^ e = 1 := by
    rw [← Decimal.two_zpow_shift (e := 0) (f := e) (s := (-e).toNat) (by omega), zpow_zero]
  have hle : m ≤ 2 ^ (-e).toNat := by
    rw [← hshift] at hone
    exact_mod_cast le_of_mul_le_mul_right hone hunit
  rcases Nat.lt_or_eq_of_le hle with hlt | heq
  · exact Or.inr ⟨hexponent, hlt⟩
  · left
    have hbits : (-e).toNat < 53 := by
      have hbits := h.bits
      rw [heq] at hbits
      exact (Nat.pow_lt_pow_iff_right (by decide)).1 hbits
    have hfull : 52 ≤ (-e).toNat := by
      have hfull := h.full.resolve_right (by omega)
      rw [heq] at hfull
      exact (Nat.pow_le_pow_iff_right (by decide)).1 hfull
    have he : e = -52 := by omega
    refine ⟨?_, he⟩
    rw [heq, he]
    rfl

/-- A double between zero and one is written as a number that is read as one. -/
theorem floatSpelling?_fraction
    {x : Float}
    (h : Fraction x) :
    ∃ w y, floatSpelling? x = some w ∧ Decimal.isNegative x.toBits = false ∧
      (w.literal false).value = .float y ∧ Fraction y := by
  obtain ⟨w, hw, hone⟩ := h
  rcases hw with ⟨hzero, rfl⟩ | ⟨m, e, hpos, hunpack, rfl⟩
  · obtain ⟨hbits, hsign⟩ := Decimal.ofBits?_of_unpack_zero hzero
    obtain ⟨y, hy, hfraction⟩ := literal_zero_fraction areDigits_zero
    refine ⟨⟨['0'], some ['0'], none⟩, y, ?_, hsign, hy, hfraction⟩
    rw [floatSpelling?, hbits]
    rfl
  · obtain ⟨⟨atStep, hbits⟩, hsign⟩ := Decimal.ofBits?_of_unpack hunpack
    have hcanonical := Decimal.canonical_of_unpack hunpack
    have hm : m ≠ 0 := Nat.ne_of_gt hpos
    have hspelling : floatSpelling? x =
        some (spelling Decimal.recordLayout (Binary.mk m e atStep).shortest) := by
      rw [floatSpelling?, hbits, Option.map_some]
      exact congrArg some (if_neg hm)
    rcases canonical_le_one hcanonical hone with ⟨rfl, rfl⟩ | ⟨hexponent, hlt⟩
    · have hshortest : ∀ b, (Binary.mk (2 ^ 52) (-52) b).shortest = ⟨1, 0⟩ := by decide +kernel
      rw [hshortest atStep] at hspelling
      obtain ⟨y, hy, hfraction⟩ := Decimal.assemble_fraction (s := 10) (n := 1)
        (by decide) (by decide) (by decide)
      exact ⟨_, y, hspelling, hsign, hy, hfraction⟩
    · have hformat := Decimal.ofBits?_inFormat hbits
      have hdigits := Decimal.shortest_ne_zero hm hformat
      obtain ⟨y, hy, hfraction⟩ := spelling_fraction hdigits
        (Decimal.shortest_lt_one hm hformat ⟨hexponent, hlt⟩)
      exact ⟨_, y, hspelling, hsign, hy, hfraction⟩

theorem readFloat_fraction
    {x : Float}
    (h : Fraction x) :
    ∃ y, readFloat (floatReading x) = .ok y ∧ Fraction y := by
  obtain ⟨w, y, hspelling, hsign, hy, hfraction⟩ := floatSpelling?_fraction h
  refine ⟨y, ?_, hfraction⟩
  rw [floatReading, hspelling, hsign, Option.elim_some, hy]
  rfl

end Json
end TournamentDesk
