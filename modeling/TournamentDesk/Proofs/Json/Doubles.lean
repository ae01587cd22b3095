import TournamentDesk.Json.Value
import TournamentDesk.Proofs.Decimal.Shortest
import TournamentDesk.Proofs.Json.Numbers

/-!
# Doubles as numbers

The text of a finite double is a valid number, however its digits are laid out.

* `spelling_valid`: digits other than zero are written as a number.
* `tokens_float`: the token of a written double.
-/

namespace TournamentDesk
namespace Json

open Decimal (Binary Digits Layout)
open Text (Symbol areDigits_toDigits areDigits_zero)

/-! ## Written digits -/

/-- How digits are written. -/
def spelling (layout : Layout) (d : Digits) : Spelling :=
  let ds := Nat.toDigits 10 d.digits
  let places := ds.length + d.exponent
  if 0 ≤ d.exponent && places ≤ layout.mostWhole then
    ⟨ds ++ List.replicate d.exponent.toNat '0', some ['0'], none⟩
  else if 0 < places && places ≤ layout.mostWhole then
    ⟨ds.take places.toNat, some (ds.drop places.toNat), none⟩
  else if places ≤ 0 && -layout.mostZeros ≤ places then
    ⟨['0'], some (List.replicate (-places).toNat '0' ++ ds), none⟩
  else
    ⟨ds.take 1, if ds.length = 1 then none else some (ds.drop 1), some (places - 1)⟩

theorem spelling_text
    (layout : Layout)
    (d : Digits) :
    (spelling layout d).text = d.text layout := by
  unfold spelling Digits.text
  simp only
  split
  · simp [Spelling.text, Spelling.fractionText, Spelling.exponentText]
  split
  · simp [Spelling.text, Spelling.fractionText, Spelling.exponentText, Decimal.pointAfter]
  split
  · simp [Spelling.text, Spelling.fractionText, Spelling.exponentText]
  · split
    · next hsingle =>
      rw [List.take_of_length_le (by omega)]
      simp [Spelling.text, Spelling.fractionText, Spelling.exponentText]
    · simp [Spelling.text, Spelling.fractionText, Spelling.exponentText, Decimal.pointAfter]

/-- Digits other than zero are written as a number. -/
theorem spelling_valid
    (layout : Layout)
    {d : Digits}
    (hd : d.digits ≠ 0) :
    (spelling layout d).Valid := by
  have hdigits := areDigits_toDigits d.digits
  have hhead : (Nat.toDigits 10 d.digits).head? ≠ some '0' := fun h => hd (head?_toDigits h)
  have hlength : 0 < (Nat.toDigits 10 d.digits).length := List.length_pos_iff.2 hdigits.1
  unfold spelling
  simp only [Bool.and_eq_true, decide_eq_true_eq]
  split
  · refine ⟨hdigits.append_zeros _, fun h => ?_, ?_⟩
    · obtain ⟨c, cs, hcs⟩ := List.exists_cons_of_ne_nil hdigits.1
      rw [hcs] at h hhead
      exact absurd h hhead
    · rintro _ ⟨⟩
      exact areDigits_zero
  split
  · next hwhole hpoint =>
    -- the point stands between two digits
    refine ⟨hdigits.of_sublist ?_ (List.take_sublist _ _), fun h => ?_, ?_⟩
    · rw [List.length_take]
      omega
    · rw [List.head?_take, if_neg (by omega)] at h
      exact absurd h hhead
    · rintro _ ⟨⟩
      refine hdigits.of_sublist ?_ (List.drop_sublist _ _)
      rw [List.length_drop]
      omega
  split
  · refine ⟨areDigits_zero, fun _ => rfl, ?_⟩
    rintro _ ⟨⟩
    refine ⟨by simp [hdigits.1], ?_⟩
    intro c hc
    rcases List.mem_append.1 hc with hc | hc
    · rw [(List.mem_replicate.1 hc).2]
      rfl
    · exact hdigits.2 c hc
  · refine ⟨hdigits.of_sublist ?_ (List.take_sublist _ _), fun h => ?_, ?_⟩
    · rw [List.length_take]
      omega
    · rw [List.head?_take, if_neg (by decide)] at h
      exact absurd h hhead
    · intro ds hds
      split at hds
      · cases hds
      · cases hds
        refine hdigits.of_sublist ?_ (List.drop_sublist _ _)
        rw [List.length_drop]
        omega

/-! ## Tokens of doubles -/

/-- How a finite double is written, without its sign. -/
def floatSpelling? (x : Float) : Option Spelling :=
  (Binary.ofBits? x.toBits).map fun v =>
    if v.m = 0 then ⟨['0'], some ['0'], none⟩ else spelling Decimal.recordLayout v.shortest

theorem floatSpelling?_valid
    {x : Float}
    {w : Spelling}
    (h : floatSpelling? x = some w) :
    w.Valid := by
  obtain ⟨v, hv, rfl⟩ := Option.map_eq_some_iff.1 h
  split
  · refine ⟨areDigits_zero, fun _ => rfl, ?_⟩
    rintro _ ⟨⟩
    exact areDigits_zero
  · next hm => exact spelling_valid _ (Decimal.shortest_ne_zero hm (Decimal.ofBits?_inFormat hv))

theorem floatText_eq (x : Float) :
    floatText x =
      (floatSpelling? x).elim ['n', 'u', 'l', 'l']
        fun w => (if Decimal.isNegative x.toBits then ['-'] else []) ++ w.text := by
  unfold floatText Decimal.text? floatSpelling?
  cases Binary.ofBits? x.toBits with
  | none => rfl
  | some v =>
      simp only [Option.map_some, Option.getD_some, Option.elim_some]
      by_cases hm : v.m = 0
      · rw [if_pos hm, if_pos hm]
        rfl
      · rw [if_neg hm, if_neg hm, spelling_text]

theorem tokens_float
    {x : Float}
    {w : Spelling}
    (hw : floatSpelling? x = some w)
    {rest : List Symbol}
    (hrest : Stops rest) :
    tokens ((floatText x).map some ++ rest) =
      .number (w.literal (Decimal.isNegative x.toBits)).value :: tokens rest := by
  rw [floatText_eq, hw]
  exact tokens_number (floatSpelling?_valid hw) (Decimal.isNegative x.toBits) hrest

end Json
end TournamentDesk
