import Mathlib.Tactic.Common
import Mathlib.Tactic.Ring
import TournamentDesk.Text.Scan

/-!
# Decimal digits

* `isDigit_cases`: the ten digits.
* `numberOf_toDigits`: the digits of a number stand for the number.
-/

namespace TournamentDesk
namespace Text

theorem isDigit_cases
    {c : Char}
    (h : c.isDigit = true) :
    c ∈ ['0', '1', '2', '3', '4', '5', '6', '7', '8', '9'] := by
  have hall : ∀ n < 10, Char.ofNat (48 + n) ∈ ['0', '1', '2', '3', '4', '5', '6', '7', '8', '9'] := by
    decide
  simp only [Char.isDigit, Bool.and_eq_true, decide_eq_true_eq, UInt32.le_iff_toNat_le] at h
  have hlow : 48 ≤ c.toNat := h.1
  have hhigh : c.toNat ≤ 57 := h.2
  have hc := hall (c.toNat - 48) (by omega)
  rwa [Nat.add_sub_cancel' hlow, Char.ofNat_toNat] at hc

/-- One digit or more. -/
def AreDigits (cs : List Char) : Prop :=
  cs ≠ [] ∧ ∀ c ∈ cs, c.isDigit = true

theorem areDigits_toDigits (n : Nat) : AreDigits (Nat.toDigits 10 n) :=
  ⟨Nat.toDigits_ne_nil, fun _ hc => Nat.isDigit_of_mem_toDigits (by decide) (by decide) hc⟩

theorem AreDigits.append_zeros
    {cs : List Char}
    (h : AreDigits cs)
    (n : Nat) :
    AreDigits (cs ++ List.replicate n '0') := by
  refine ⟨by simp [h.1], ?_⟩
  intro c hc
  rcases List.mem_append.1 hc with hc | hc
  · exact h.2 c hc
  · rw [(List.mem_replicate.1 hc).2]
    rfl

theorem AreDigits.of_sublist
    {cs ds : List Char}
    (h : AreDigits cs)
    (hds : 0 < ds.length)
    (hsub : ds.Sublist cs) :
    AreDigits ds :=
  ⟨List.length_pos_iff.1 hds, fun c hc => h.2 c (hsub.subset hc)⟩

theorem areDigits_zero : AreDigits ['0'] :=
  ⟨by decide, List.forall_mem_singleton.2 rfl⟩

/-! ## The number that digits stand for -/

theorem numberOf_eq (ds : List Char) : numberOf ds = Nat.ofDigitChars 10 ds 0 := by
  rw [Nat.ofDigitChars_eq_foldl, numberOf]
  simp only [Nat.mul_comm]

theorem numberOf_toDigits (n : Nat) : numberOf (Nat.toDigits 10 n) = n := by
  rw [numberOf_eq, Nat.ofDigitChars_ten_toDigits]

theorem numberOf_zeros_append
    (n : Nat)
    (ds : List Char) :
    numberOf (List.replicate n '0' ++ ds) = numberOf ds := by
  rw [numberOf_eq, numberOf_eq, Nat.ofDigitChars_append, Nat.ofDigitChars_replicate_zero,
    Nat.mul_zero]

theorem numberOf_append_zeros
    (ds : List Char)
    (n : Nat) :
    numberOf (ds ++ List.replicate n '0') = numberOf ds * 10 ^ n := by
  rw [numberOf_eq, numberOf_eq, Nat.ofDigitChars_append, Nat.ofDigitChars_replicate_zero,
    Nat.mul_comm]

end Text
end TournamentDesk
