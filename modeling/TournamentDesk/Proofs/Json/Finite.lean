import TournamentDesk.Proofs.Decimal.Overflow
import TournamentDesk.Proofs.Json.Fractions

/-!
# Finite doubles and back

The text of a finite double is never a number too large for a double, although it is read with rounding
errors of its own. In positional writing all digits before the point are kept, and so the power of ten is
negative; with an exponent the digits are those of a number that can be read.

* `readFloat_finite`: a written finite double is read as a double.
-/

namespace TournamentDesk
namespace Json

open Decimal (Binary Digits Literal Readable)
open Text (AreDigits areDigits_toDigits areDigits_zero)

/-! ## Significands -/

theorem gather_length_le
    (s : Nat)
    (ds : List Nat) :
    (Decimal.gather s ds).2 ≤ ds.length := by
  induction ds generalizing s with
  | nil => exact Nat.le_refl 0
  | cons d ds ih =>
      rw [Decimal.gather]
      split
      · exact Nat.succ_le_succ (ih (s * 10 + d))
      · exact Nat.zero_le _

theorem mul_pow_le_foldl_digits
    (ds : List Nat)
    (n : Nat) :
    n * 10 ^ ds.length ≤ ds.foldl (fun n d => n * 10 + d) n := by
  induction ds generalizing n with
  | nil => simp
  | cons d ds ih =>
      calc
        n * 10 ^ (ds.length + 1) = n * 10 * 10 ^ ds.length := by rw [Nat.pow_succ']; ring
        _ ≤ (n * 10 + d) * 10 ^ ds.length := Nat.mul_le_mul_right _ (Nat.le_add_right _ d)
        _ ≤ ds.foldl (fun n d => n * 10 + d) (n * 10 + d) := ih (n * 10 + d)

/-- Digits that are dropped count as zeros. -/
theorem gather_mul_le
    (s : Nat)
    (ds : List Nat) :
    (Decimal.gather s ds).1 * 10 ^ (ds.length - (Decimal.gather s ds).2) ≤
      ds.foldl (fun n d => n * 10 + d) s := by
  induction ds generalizing s with
  | nil => simp [Decimal.gather]
  | cons d ds ih =>
      rw [Decimal.gather]
      split
      · rw [List.length_cons, Nat.add_sub_add_right]
        exact ih (s * 10 + d)
      · exact mul_pow_le_foldl_digits (d :: ds) s

theorem ofDigits_lt
    {cs : List Char}
    (h : ∀ c ∈ cs, c.isDigit = true) :
    ofDigits (cs.map digitValue) < 10 ^ cs.length := by
  have hfold := ofDigitChars_lt h
  rw [Nat.ofDigitChars_eq_foldl] at hfold
  rw [ofDigits, List.foldl_map]
  simpa [digitValue, Nat.mul_comm] using hfold

/-! ## Two ways of writing digits -/

/-- Up to sixteen digits before the point are all kept, and at least one behind it. -/
theorem literal_positional
    {whole fraction : List Char}
    (hvalid : (Spelling.mk whole (some fraction) none).Valid)
    (hlength : whole.length ≤ 16)
    (negative : Bool) :
    ∃ y, ((Spelling.mk whole (some fraction) none).literal negative).value = .float y := by
  obtain ⟨c, cs, rfl⟩ := List.exists_cons_of_ne_nil (hvalid.fraction fraction rfl).1
  have hc : digitValue c ≤ 9 := digitValue_le ((hvalid.fraction _ rfl).2 c List.mem_cons_self)
  have hsmall : ofDigits (whole.map digitValue) < 10 ^ 16 :=
    (ofDigits_lt hvalid.whole.2).trans_le (Nat.pow_le_pow_right (by decide) hlength)
  have hwhole : Decimal.gather 0 (whole.map digitValue) =
      (ofDigits (whole.map digitValue), whole.length) := by
    rw [gather_of_le (by unfold ofDigits Decimal.significandLimit at *; omega), List.length_map]
    rfl
  have hfits : ofDigits (whole.map digitValue) * 10 + digitValue c ≤ Decimal.significandLimit := by
    unfold Decimal.significandLimit
    omega
  simp only [Spelling.literal, Literal.value, hwhole, Option.map_some, List.map_cons, Option.getD_some,
    Option.getD_none, Option.isNone_some, Bool.false_and, Decimal.gather, if_pos hfits, List.length_map,
    Nat.sub_self]
  exact Decimal.assemble_of_scale? negative (Decimal.scale?_of_neg _ (by omega))

/-- With an exponent, the digits that are kept are the first ones of a number that can be read. -/
theorem literal_exponential
    {d : Digits}
    (hread : Readable d.exponent d.value)
    {c : Char}
    {cs : List Char}
    (hdigits : Nat.toDigits 10 d.digits = c :: cs)
    {fraction : Option (List Char)}
    (hfraction : fraction.getD [] = cs)
    (negative : Bool) :
    ∃ y, ((Spelling.mk [c] fraction (some (cs.length + d.exponent))).literal negative).value = .float y := by
  have hc : digitValue c ≤ 9 := digitValue_le ((areDigits_toDigits d.digits).2 c (by simp [hdigits]))
  have hvalues : (fraction.map fun ds => ds.map digitValue).getD [] = cs.map digitValue := by
    rw [← hfraction]
    cases fraction <;> rfl
  obtain ⟨kept, hkept⟩ : ∃ kept, kept = Decimal.gather (digitValue c) (cs.map digitValue) := ⟨_, rfl⟩
  have hlength : kept.2 ≤ cs.length := by
    have hle := gather_length_le (digitValue c) (cs.map digitValue)
    rw [← hkept, List.length_map] at hle
    exact hle
  have hlimit : kept.1 ≤ Decimal.significandLimit := by
    rw [hkept]
    refine gather_le (le_trans hc ?_) _
    decide
  have hprefix : kept.1 * 10 ^ (cs.length - kept.2) ≤ d.digits := by
    have hle := gather_mul_le (digitValue c) (cs.map digitValue)
    have hall := ofDigits_toDigits d.digits
    rw [hdigits, ofDigits, List.map_cons, List.foldl_cons, Nat.zero_mul, Nat.zero_add] at hall
    rw [← hkept, List.length_map, hall] at hle
    exact hle
  have hvalue : ((Spelling.mk [c] fraction (some (cs.length + d.exponent))).literal negative).value =
      Decimal.assemble negative kept.1 (-kept.2 + (cs.length + d.exponent)) := by
    have hliteral := @literal_value negative _ hc (fraction.map fun ds => ds.map digitValue)
      (some (cs.length + d.exponent)) (by simp)
    rw [hvalues, ← hkept] at hliteral
    exact hliteral
  rw [hvalue]
  refine Decimal.assemble_of_scale? negative ?_
  rcases lt_or_ge (-(kept.2 : Int) + (cs.length + d.exponent)) 0 with hneg | hpos
  · exact Decimal.scale?_of_neg _ hneg
  · obtain ⟨n, hn⟩ := Int.eq_ofNat_of_zero_le hpos
    rw [hn]
    exact Decimal.scale?_readable hlimit (hread.truncate hprefix (by omega))

theorem spelling_cases
    (d : Digits) :
    (∃ whole fraction, spelling Decimal.recordLayout d = ⟨whole, some fraction, none⟩ ∧
      whole.length ≤ 16) ∨
    ∃ c cs fraction, Nat.toDigits 10 d.digits = c :: cs ∧ fraction.getD [] = cs ∧
      spelling Decimal.recordLayout d = ⟨[c], fraction, some (cs.length + d.exponent)⟩ := by
  obtain ⟨c, cs, hcs⟩ := List.exists_cons_of_ne_nil (areDigits_toDigits d.digits).1
  unfold spelling Decimal.recordLayout
  simp only [Bool.and_eq_true, decide_eq_true_eq]
  split
  · refine .inl ⟨_, _, rfl, ?_⟩
    rw [List.length_append, List.length_replicate]
    omega
  split
  · refine .inl ⟨_, _, rfl, ?_⟩
    rw [List.length_take]
    omega
  split
  · exact .inl ⟨_, _, rfl, by decide⟩
  · right
    rw [hcs]
    refine ⟨c, cs, if (c :: cs).length = 1 then none else some cs, rfl, ?_, ?_⟩
    · cases cs <;> rfl
    · rw [List.length_cons, Nat.cast_succ, add_right_comm, add_sub_cancel_right]
      rfl

/-- The digits of a finite double are read as a double. -/
theorem spelling_readable
    {d : Digits}
    (hd : d.digits ≠ 0)
    (hread : Readable d.exponent d.value)
    (negative : Bool) :
    ∃ y, ((spelling Decimal.recordLayout d).literal negative).value = .float y := by
  have hvalid := spelling_valid Decimal.recordLayout hd
  rcases spelling_cases d with ⟨whole, fraction, heq, hlength⟩ | ⟨c, cs, fraction, hdigits, hfraction, heq⟩
  · rw [heq] at hvalid ⊢
    exact literal_positional hvalid hlength negative
  · rw [heq]
    exact literal_exponential hread hdigits hfraction negative

/-! ## Finite doubles -/

theorem floatSpelling?_finite
    {x : Float}
    (h : x.isFinite = true)
    (negative : Bool) :
    ∃ w, floatSpelling? x = some w ∧ ∃ y, (w.literal negative).value = .float y := by
  obtain ⟨v, hv⟩ := Decimal.ofBits?_of_isFinite h
  simp only [floatSpelling?, hv, Option.map_some, Option.some.injEq, exists_eq_left']
  split
  · exact literal_positional
      ⟨areDigits_zero, fun _ => rfl, by rintro _ ⟨⟩; exact areDigits_zero⟩ (by decide) negative
  · next hm =>
    have hformat := Decimal.ofBits?_inFormat hv
    exact spelling_readable (Decimal.shortest_ne_zero hm hformat)
      (Decimal.shortest_readable hformat (Decimal.ofBits?_atStep hv)) negative

/-- A written finite double is read as a double. -/
theorem readFloat_finite
    {x : Float}
    (h : x.isFinite = true) :
    ∃ y, readFloat (floatReading x) = .ok y := by
  obtain ⟨w, hspelling, y, hy⟩ := floatSpelling?_finite h (Decimal.isNegative x.toBits)
  refine ⟨y, ?_⟩
  rw [floatReading, hspelling, Option.elim_some, hy]
  rfl

end Json
end TournamentDesk
