import Mathlib.Data.List.TakeWhile
import TournamentDesk.Proofs.Text.Digits
import TournamentDesk.Time.Instant

/-!
# Instants and back

The text of an instant in the range of years is read as the instant, leap seconds included.

* `parse?_render`: an instant comes back from its text.
-/

namespace TournamentDesk
namespace Time

open Text (AreDigits numberOf wholeNumber)

/-! ## Padded numbers -/

theorem padded_areDigits (w n : Nat) : AreDigits (padded w n) := by
  have hdigits := Text.areDigits_toDigits n
  refine ⟨by simp [padded, hdigits.1], ?_⟩
  intro c hc
  rcases List.mem_append.1 hc with hc | hc
  · rw [(List.mem_replicate.1 hc).2]
    rfl
  · exact hdigits.2 c hc

theorem numberOf_padded (w n : Nat) : numberOf (padded w n) = n := by
  rw [padded, Text.numberOf_zeros_append, Text.numberOf_toDigits]

theorem padded_length
    {w n : Nat}
    (hwidth : 0 < w)
    (h : n < 10 ^ w) :
    (padded w n).length = w := by
  have hlength := (Nat.length_toDigits_le_iff (b := 10) (by decide) hwidth).2 h
  rw [padded, List.length_append, List.length_replicate]
  omega

/-- A text that starts with digits starts with no blank and no sign. -/
theorem skipBlanks_digits
    {ds : List Char}
    (hds : AreDigits ds)
    (rest : List Char) :
    ∃ c cs, ds ++ rest = c :: cs ∧ c ≠ '-' ∧ c ≠ '+' ∧ Text.skipBlanks (ds ++ rest) = ds ++ rest := by
  obtain ⟨c, cs, rfl⟩ := List.exists_cons_of_ne_nil hds.1
  have hcases := Text.isDigit_cases (hds.2 c List.mem_cons_self)
  have hother : c ≠ '-' ∧ c ≠ '+' ∧ Text.isBlankChar c = false := by
    simp only [List.mem_cons, List.not_mem_nil, or_false] at hcases
    rcases hcases with rfl | rfl | rfl | rfl | rfl | rfl | rfl | rfl | rfl | rfl <;> decide
  obtain ⟨hminus, hplus, hblank⟩ := hother
  refine ⟨c, cs ++ rest, rfl, hminus, hplus, ?_⟩
  simp [Text.skipBlanks, hblank]

theorem takeWhile_digits
    {ds : List Char}
    (hds : AreDigits ds) :
    ds.takeWhile Char.isDigit = ds :=
  List.takeWhile_eq_self_iff.2 hds.2

/-- As many digits as may be taken. -/
theorem number_append
    {ds : List Char}
    (hds : AreDigits ds)
    (rest : List Char) :
    number ds.length (ds ++ rest) = some (numberOf ds, rest) := by
  obtain ⟨-, -, -, -, -, hskip⟩ := skipBlanks_digits hds rest
  have hempty : ds.isEmpty = false := by simpa using hds.1
  rw [number]
  simp only [hskip, List.take_left, takeWhile_digits hds, hempty, List.drop_left]
  rfl

theorem number_padded
    {w n : Nat}
    (hwidth : 0 < w)
    (h : n < 10 ^ w)
    (rest : List Char) :
    number w (padded w n ++ rest) = some (n, rest) := by
  have hnumber := number_append (padded_areDigits w n) rest
  rwa [padded_length hwidth h, numberOf_padded] at hnumber

theorem takeWhile_digits_append
    {ds : List Char}
    (hds : AreDigits ds)
    {c : Char}
    (hc : c.isDigit = false)
    (rest : List Char) :
    (ds ++ c :: rest).takeWhile Char.isDigit = ds ∧
      (ds ++ c :: rest).dropWhile Char.isDigit = c :: rest := by
  constructor
  · rw [List.takeWhile_append_of_pos hds.2, List.takeWhile_cons_of_neg (by simp [hc]), List.append_nil]
  · rw [List.dropWhile_append_of_pos hds.2, List.dropWhile_cons_of_neg (by simp [hc])]

theorem wholeNumber_append
    {ds : List Char}
    (hds : AreDigits ds)
    {c : Char}
    (hc : c.isDigit = false)
    (rest : List Char) :
    wholeNumber (ds ++ c :: rest) = some (numberOf ds, c :: rest) := by
  obtain ⟨htake, hdrop⟩ := takeWhile_digits_append hds hc rest
  have hempty : ds.isEmpty = false := by simpa using hds.1
  rw [wholeNumber]
  simp only [htake, hdrop, hempty]
  rfl

/-! ## The parts of an instant -/

theorem year_yearText
    (y : Int)
    (rest : List Char) :
    year (yearText y ++ '-' :: rest) = some (y, '-' :: rest) := by
  unfold yearText
  split
  · next hrange =>
    have hnumber := number_padded (w := 4) (n := y.toNat) (by decide) (by omega) ('-' :: rest)
    obtain ⟨c, cs, hcons, hminus, hplus, hskip⟩ :=
      skipBlanks_digits (padded_areDigits 4 y.toNat) ('-' :: rest)
    have hyear : year (padded 4 y.toNat ++ '-' :: rest) =
        (number 4 (padded 4 y.toNat ++ '-' :: rest)).map fun r => ((r.1 : Int), r.2) := by
      rw [year, hskip, hcons]
      simp [hminus, hplus]
    rw [hyear, hnumber, Option.map_some, Int.toNat_of_nonneg hrange.1]
  · next hrange =>
    have hwhole := wholeNumber_append (padded_areDigits 4 y.natAbs) (c := '-') (by decide) rest
    rw [numberOf_padded] at hwhole
    by_cases hsign : y < 0
    · have hskip : Text.skipBlanks ('-' :: (padded 4 y.natAbs ++ '-' :: rest)) =
          '-' :: (padded 4 y.natAbs ++ '-' :: rest) := rfl
      rw [if_pos hsign, List.cons_append, year, hskip]
      simp only [hwhole, Option.map_some]
      rw [Int.ofNat_natAbs_of_nonpos (Int.le_of_lt hsign), Int.neg_neg]
    · have hskip : Text.skipBlanks ('+' :: (padded 4 y.natAbs ++ '-' :: rest)) =
          '+' :: (padded 4 y.natAbs ++ '-' :: rest) := rfl
      rw [if_neg hsign, List.cons_append, year, hskip]
      simp only [hwhole, Option.map_some]
      rw [Int.natAbs_of_nonneg (Int.not_lt.1 hsign)]

theorem expectSpaced_cons
    {c : Char}
    (hc : Text.isBlankChar c = false)
    (rest : List Char) :
    expectSpaced c (c :: rest) = some ((), rest) := by
  simp [expectSpaced, Text.skipBlanks, hc, Text.expect]

/-- Digits of the fraction, as many as are exact. -/
theorem fraction_padded
    {w n : Nat}
    (hwidth : 0 < w)
    (hnine : w ≤ 9)
    (h : n < 10 ^ w)
    (rest : List Char) :
    fraction ('.' :: (padded w n ++ 'Z' :: rest)) = some (n * 10 ^ (9 - w), 'Z' :: rest) := by
  have hdigits := padded_areDigits w n
  have hempty : (padded w n).isEmpty = false := by simpa using hdigits.1
  obtain ⟨htake, hdrop⟩ := takeWhile_digits_append hdigits (c := 'Z') (by decide) rest
  have hfill : (padded w n ++ List.replicate 9 '0').take 9 =
      padded w n ++ List.replicate (9 - w) '0' := by
    rw [List.take_append, padded_length hwidth h, List.take_of_length_le (by rw [padded_length hwidth h]; exact hnine),
      List.take_replicate, Nat.min_eq_left (Nat.sub_le 9 w)]
  rw [fraction]
  simp only [htake, hdrop, hempty, hfill, Text.numberOf_append_zeros, numberOf_padded]
  rfl

theorem fraction_fractionText
    {nano : Nat}
    (h : nano < 1000000000)
    (rest : List Char) :
    fraction (fractionText nano ++ 'Z' :: rest) = some (nano, 'Z' :: rest) := by
  unfold fractionText
  split
  · next hzero =>
    rw [hzero]
    rfl
  split
  · next hmilli =>
    have hfraction := fraction_padded (w := 3) (n := nano / 1000000) (by decide) (by decide)
      (by omega) rest
    have hpower : 10 ^ (9 - 3) = 1000000 := rfl
    rw [List.cons_append, hfraction, hpower, Nat.div_mul_cancel (Nat.dvd_of_mod_eq_zero hmilli)]
  split
  · next hmicro =>
    have hfraction := fraction_padded (w := 6) (n := nano / 1000) (by decide) (by decide)
      (by omega) rest
    have hpower : 10 ^ (9 - 6) = 1000 := rfl
    rw [List.cons_append, hfraction, hpower, Nat.div_mul_cancel (Nat.dvd_of_mod_eq_zero hmicro)]
  · have hfraction := fraction_padded (w := 9) (n := nano) (by decide) (by decide) (by omega) rest
    rw [List.cons_append, hfraction, Nat.sub_self, Nat.pow_zero, Nat.mul_one]

/-! ## The whole text -/

theorem daysInMonth_le (year : Int) (month : Nat) : daysInMonth year month ≤ 31 := by
  unfold daysInMonth
  split
  · split <;> decide
  all_goals decide

theorem of?_parts (d : Date) : Date.of? d.year d.month d.day = some d :=
  dif_pos ⟨d.month_ok, d.day_ok⟩

theorem instantAt?_self
    {t : Instant}
    (h : t.date.inRange = true) :
    instantAt? t.date t.second t.nano 0 = some t := by
  have hsecond := t.second_ok
  have hnano := t.nano_ok
  have hleap := t.leap_ok
  have hmay : mayHave t.second t.nano = true := by
    simp only [mayHave, Bool.and_eq_true, Bool.or_eq_true, decide_eq_true_eq]
    refine ⟨hnano, ?_⟩
    by_cases hsmall : t.nano < 1000000000
    · exact Or.inl hsmall
    · exact Or.inr (hleap (Nat.not_lt.1 hsmall))
  have hshift : (((t.second : Int) - 0) % 86400).toNat = t.second := by omega
  have hearly : ¬ (t.second : Int) - 0 < 0 := by omega
  have hlate : (t.second : Int) - 0 < 86400 := by omega
  unfold instantAt?
  simp only [hshift, if_neg hearly, if_pos hlate, h]
  rw [dif_pos ⟨hsecond, hmay⟩]
  rfl

theorem splitSecond_text
    {second nano : Nat}
    (hnano : nano < 2000000000)
    (hleap : 1000000000 ≤ nano → second % 60 = 59) :
    splitSecond (second % 60 + nano / 1000000000) (nano % 1000000000) = (second % 60, nano) := by
  unfold splitSecond
  by_cases h : 1000000000 ≤ nano
  · have hlast := hleap h
    rw [if_pos (by omega), hlast]
    simp only [Prod.mk.injEq, true_and]
    omega
  · rw [if_neg (by omega)]
    simp only [Prod.mk.injEq]
    omega

theorem bind_of_eq_some
    {α β : Type}
    {x : Option α}
    {a : α}
    {f : α → Option β}
    (h : x = some a) :
    (x >>= f) = f a := by
  rw [h]
  rfl

/-- An instant comes back from its text. -/
theorem parse?_render
    {t : Instant}
    (h : t.date.inRange = true) :
    Instant.parse? t.render = some t := by
  have hsecond := t.second_ok
  have hnano := t.nano_ok
  have hleap := t.leap_ok
  have hmonth := t.date.month_ok
  have hday := t.date.day_ok
  have hmost := daysInMonth_le t.date.year t.date.month
  have htwo : ∀ n < 100, ∀ rest, number 2 (padded 2 n ++ rest) = some (n, rest) :=
    fun n hn rest => number_padded (by decide) hn rest
  have hclock : t.second / 3600 * 3600 + t.second / 60 % 60 * 60 + t.second % 60 = t.second := by omega
  have hdash : Text.isBlankChar '-' = false := by decide
  have hcolon : Text.isBlankChar ':' = false := by decide
  have hoffset : offset (Text.skipBlanks ['Z']) = some (0, []) := rfl
  have hseparator : ∀ rest, separator ('T' :: rest) = some ((), rest) := fun _ => rfl
  have hlawful : (t.date.inRange && decide (t.second / 3600 < 24) && decide (t.second / 60 % 60 < 60) &&
      decide (t.second % 60 + t.nano / 1000000000 ≤ 60) && decide ((0 : Int).natAbs < 86400) &&
      (Text.skipBlanks []).isEmpty) = true := by
    simp only [h, Bool.true_and, Bool.and_eq_true, decide_eq_true_eq]
    exact ⟨⟨⟨⟨by omega, by omega⟩, by omega⟩, by decide⟩, rfl⟩
  rw [Instant.parse?, Instant.render, String.toList_ofList]
  simp only [Instant.text, Instant.stamp, List.append_assoc, List.cons_append]
  unfold Instant.ofText?
  refine (bind_of_eq_some (year_yearText _ _)).trans ?_
  refine (bind_of_eq_some (expectSpaced_cons hdash _)).trans ?_
  refine (bind_of_eq_some (htwo t.date.month (by omega) _)).trans ?_
  refine (bind_of_eq_some (expectSpaced_cons hdash _)).trans ?_
  refine (bind_of_eq_some (htwo t.date.day (by omega) _)).trans ?_
  refine (bind_of_eq_some (hseparator _)).trans ?_
  refine (bind_of_eq_some (htwo (t.second / 3600) (by omega) _)).trans ?_
  refine (bind_of_eq_some (expectSpaced_cons hcolon _)).trans ?_
  refine (bind_of_eq_some (htwo (t.second / 60 % 60) (by omega) _)).trans ?_
  refine (bind_of_eq_some (expectSpaced_cons hcolon _)).trans ?_
  refine (bind_of_eq_some (htwo (t.second % 60 + t.nano / 1000000000) (by omega) _)).trans ?_
  refine (bind_of_eq_some (fraction_fractionText (Nat.mod_lt t.nano (by decide)) _)).trans ?_
  refine (bind_of_eq_some hoffset).trans ?_
  refine (bind_of_eq_some (of?_parts t.date)).trans ?_
  refine (if_pos hlawful).trans ?_
  simp only [splitSecond_text hnano hleap, hclock]
  exact instantAt?_self h

end Time
end TournamentDesk
