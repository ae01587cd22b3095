import Mathlib.Data.List.Induction
import Mathlib.Tactic.Common
import TournamentDesk.Decimal.Layout
import TournamentDesk.Json.Token
import TournamentDesk.Proofs.Text.Digits

/-!
# Numbers and back

A written number is digits, perhaps a fraction, and perhaps an exponent. As long as no digit is
superfluous and something else stands behind it, its token is the number with these parts.

* `tokens_number`: the token of a written number.
* `tokens_int`: the token of a written whole number.
* `intNumeral_eq`: a whole number of 64 bits is read exactly.
-/

namespace TournamentDesk
namespace Json

open Decimal (Literal)
open Text (AreDigits Symbol areDigits_toDigits isDigit_cases)

/-! ## Digits -/

/-- The value of a digit character. -/
def digitValue (c : Char) : Nat :=
  c.toNat - '0'.toNat

/-- No part of a number stands at the front. -/
def Stops (rest : List Symbol) : Prop :=
  ∀ c, rest.head? = some (some c) → c.isDigit = false ∧ c ≠ '.' ∧ c ≠ 'e' ∧ c ≠ 'E'

theorem digit?_of_isDigit
    {c : Char}
    (h : c.isDigit = true) :
    digit? (some c) = some (digitValue c) := by
  simp [digit?, h, digitValue]

theorem digits_of_head
    {rest : List Symbol}
    (h : ∀ c, rest.head? = some (some c) → c.isDigit = false) :
    digits rest = ([], rest) := by
  cases rest with
  | nil => rfl
  | cons s rest =>
      cases s with
      | none => rfl
      | some c =>
          have hc : c.isDigit = false := h c rfl
          simp [digits, digit?, hc]

theorem digits_append
    {cs : List Char}
    (hcs : ∀ c ∈ cs, c.isDigit = true)
    {rest : List Symbol}
    (hrest : ∀ c, rest.head? = some (some c) → c.isDigit = false) :
    digits (cs.map some ++ rest) = (cs.map digitValue, rest) := by
  induction cs with
  | nil => exact digits_of_head hrest
  | cons c cs ih =>
      have ih := ih fun d hd => hcs d (List.mem_cons_of_mem _ hd)
      simp [digits, digit?_of_isDigit (hcs c List.mem_cons_self), ih]

theorem digits1?_append
    {cs : List Char}
    (hcs : AreDigits cs)
    {rest : List Symbol}
    (hrest : ∀ c, rest.head? = some (some c) → c.isDigit = false) :
    digits1? (cs.map some ++ rest) = some (cs.map digitValue, rest) := by
  rw [digits1?, digits_append hcs.2 hrest]
  cases cs with
  | nil => exact absurd rfl hcs.1
  | cons c cs => rfl

/-- The digits of a number read back as the number. -/
theorem ofDigits_toDigits (n : Nat) : ofDigits ((Nat.toDigits 10 n).map digitValue) = n := by
  have hfold := Nat.ofDigitChars_ten_toDigits (n := n)
  rw [Nat.ofDigitChars_eq_foldl] at hfold
  rw [ofDigits, List.foldl_map]
  simpa [digitValue, Nat.mul_comm] using hfold

theorem ofDigitChars_lt
    {cs : List Char}
    (h : ∀ c ∈ cs, c.isDigit = true) :
    Nat.ofDigitChars 10 cs 0 < 10 ^ cs.length := by
  induction cs using List.reverseRecOn with
  | nil => decide
  | append_singleton cs c ih =>
      have ih := ih fun d hd => h d (List.mem_append_left _ hd)
      have hc : c.isDigit = true := h c (by simp)
      have hle : c.toNat - '0'.toNat ≤ 9 := by
        simp only [Char.isDigit, Bool.and_eq_true, decide_eq_true_eq, UInt32.le_iff_toNat_le] at hc
        have := hc.2
        change c.val.toNat - 48 ≤ 9
        change c.val.toNat ≤ 57 at this
        omega
      rw [Nat.ofDigitChars_append, Nat.ofDigitChars_cons, Nat.ofDigitChars_nil, List.length_append,
        List.length_singleton, Nat.pow_succ]
      omega

/-- Only zero itself is written with a zero in front. -/
theorem head?_toDigits
    {n : Nat}
    (h : (Nat.toDigits 10 n).head? = some '0') :
    n = 0 := by
  obtain ⟨cs, hcs⟩ : ∃ cs, Nat.toDigits 10 n = '0' :: cs := by
    cases hd : Nat.toDigits 10 n with
    | nil => exact absurd hd Nat.toDigits_ne_nil
    | cons c cs =>
        rw [hd] at h
        cases h
        exact ⟨cs, rfl⟩
  -- without the zero the same digits would do, and so there are none
  have hvalue : n = Nat.ofDigitChars 10 cs 0 := by
    rw [← Nat.ofDigitChars_ten_toDigits (n := n), hcs, Nat.ofDigitChars_cons]
    rfl
  have hlt : n < 10 ^ cs.length := by
    rw [hvalue]
    refine ofDigitChars_lt fun c hc => (areDigits_toDigits n).2 c ?_
    rw [hcs]
    exact List.mem_cons_of_mem _ hc
  cases cs with
  | nil => simpa using hlt
  | cons c cs =>
      have hlength := (Nat.length_toDigits_le_iff (n := n) (b := 10) (by decide)
        (Nat.succ_pos cs.length)).2 hlt
      rw [hcs] at hlength
      simp only [List.length_cons] at hlength
      omega

/-! ## The parts of a number -/

/-- A number as it is written, without its sign. -/
structure Spelling where
  /-- The digits before the point. -/
  whole : List Char
  /-- The digits behind the point, if there is one. -/
  fraction : Option (List Char)
  /-- The exponent of ten, if one is written. -/
  exponent : Option Int

namespace Spelling

/-- The text of the fraction. -/
def fractionText (w : Spelling) : List Char :=
  w.fraction.elim [] fun ds => '.' :: ds

/-- The text of the exponent. -/
def exponentText (w : Spelling) : List Char :=
  w.exponent.elim [] Decimal.exponentText

/-- The text of a number. -/
def text (w : Spelling) : List Char :=
  w.whole ++ w.fractionText ++ w.exponentText

/-- The number that a text stands for, with a sign. -/
def literal (w : Spelling) (negative : Bool) : Literal :=
  ⟨negative, w.whole.map digitValue, w.fraction.map fun ds => ds.map digitValue, w.exponent⟩

/-- Each part has digits, and none of those before the point is superfluous. -/
structure Valid (w : Spelling) : Prop where
  /-- There are digits before the point. -/
  whole : AreDigits w.whole
  /-- A leading zero stands alone. -/
  leading : w.whole.head? = some '0' → w.whole = ['0']
  /-- There are digits behind a point. -/
  fraction : ∀ ds, w.fraction = some ds → AreDigits ds

end Spelling

theorem wholePart?_append
    {cs : List Char}
    (hcs : AreDigits cs)
    (hleading : cs.head? = some '0' → cs = ['0'])
    {rest : List Symbol}
    (hrest : ∀ c, rest.head? = some (some c) → c.isDigit = false) :
    wholePart? (cs.map some ++ rest) = some (cs.map digitValue, rest) := by
  rw [wholePart?, digits1?_append hcs hrest]
  split
  · next d ds rest' hzero =>
    -- two digits of which the first one is zero
    exfalso
    simp only [Option.some.injEq, Prod.mk.injEq] at hzero
    obtain ⟨hmap, -⟩ := hzero
    obtain ⟨c, cs', rfl, hc, hcs'⟩ := List.map_eq_cons_iff.1 hmap
    have hdigit := hcs.2 c List.mem_cons_self
    have hchar : c = '0' := by
      simp only [Char.isDigit, Bool.and_eq_true, decide_eq_true_eq, UInt32.le_iff_toNat_le] at hdigit
      have hlow : 48 ≤ c.val.toNat := hdigit.1
      have hzero : c.val.toNat - 48 = 0 := hc
      exact Char.toNat_inj.1 (show c.val.toNat = 48 by omega)
    have hsingle := hleading (by rw [hchar]; rfl)
    rw [hchar] at hsingle
    cases hsingle
    cases hcs'
  · rfl

theorem head?_exponentText
    {e : Option Int}
    {rest : List Symbol}
    (hrest : Stops rest)
    {c : Char}
    (h : ((e.elim [] Decimal.exponentText).map some ++ rest).head? = some (some c)) :
    c.isDigit = false ∧ c ≠ '.' := by
  cases e with
  | none => exact ⟨(hrest c h).1, (hrest c h).2.1⟩
  | some e =>
      simp only [Option.elim_some, Decimal.exponentText, List.map_cons, List.cons_append,
        List.head?_cons, Option.some.injEq] at h
      subst h
      decide

theorem fractionPart?_append
    {w : Spelling}
    (hw : w.Valid)
    {rest : List Symbol}
    (hrest : Stops rest) :
    fractionPart? (w.fractionText.map some ++ (w.exponentText.map some ++ rest)) =
      some (w.fraction.map (fun ds => ds.map digitValue), w.exponentText.map some ++ rest) := by
  have hhead : ∀ c, (w.exponentText.map some ++ rest).head? = some (some c) →
      c.isDigit = false ∧ c ≠ '.' :=
    fun c hc => head?_exponentText hrest hc
  cases hfraction : w.fraction with
  | none =>
      simp only [Spelling.fractionText, hfraction, Option.elim_none, List.map_nil, List.nil_append,
        Option.map_none]
      rw [fractionPart?]
      intro rest' heq
      exact (hhead '.' (by rw [heq]; rfl)).2 rfl
  | some ds =>
      simp only [Spelling.fractionText, hfraction, Option.elim_some, List.map_cons, List.cons_append,
        fractionPart?]
      rw [digits1?_append (hw.fraction ds hfraction) fun c hc => (hhead c hc).1]
      rfl

theorem exponentPart?_append
    (e : Option Int)
    {rest : List Symbol}
    (hrest : Stops rest) :
    exponentPart? ((e.elim [] Decimal.exponentText).map some ++ rest) = some (e, rest) := by
  cases e with
  | none =>
      cases rest with
      | nil => rfl
      | cons s rest =>
          cases s with
          | none => rfl
          | some c =>
              obtain ⟨-, -, hlower, hupper⟩ := hrest c rfl
              simp [exponentPart?, hlower, hupper]
  | some e =>
      obtain ⟨n, hn⟩ : ∃ n, n = e.natAbs := ⟨_, rfl⟩
      have hdigits := digits1?_append (areDigits_toDigits n) fun c hc => (hrest c hc).1
      by_cases hsign : e < 0
      · simp [Decimal.exponentText, hsign, exponentPart?, hdigits, ofDigits_toDigits, ← hn]
        omega
      · simp [Decimal.exponentText, hsign, exponentPart?, hdigits, ofDigits_toDigits, ← hn]
        omega

/-- A valid spelling is read part by part. -/
theorem literal?_text
    {w : Spelling}
    (hw : w.Valid)
    (negative : Bool)
    {rest : List Symbol}
    (hrest : Stops rest) :
    literal? negative (w.text.map some ++ rest) = some (w.literal negative, rest) := by
  have hwhole : wholePart? (w.text.map some ++ rest) =
      some (w.whole.map digitValue,
        w.fractionText.map some ++ (w.exponentText.map some ++ rest)) := by
    rw [Spelling.text, List.map_append, List.map_append, List.append_assoc, List.append_assoc]
    refine wholePart?_append hw.whole hw.leading fun c hc => ?_
    cases hfraction : w.fraction with
    | none =>
        simp only [Spelling.fractionText, hfraction, Option.elim_none, List.map_nil,
          List.nil_append] at hc
        exact (head?_exponentText hrest hc).1
    | some ds =>
        simp only [Spelling.fractionText, hfraction, Option.elim_some, List.map_cons,
          List.cons_append, List.head?_cons, Option.some.injEq] at hc
        subst hc
        decide
  simp only [literal?, hwhole, fractionPart?_append hw hrest, Option.bind_eq_bind, Option.bind_some]
  rw [Spelling.exponentText, exponentPart?_append w.exponent hrest]
  rfl

/-! ## Tokens of numbers -/

theorem cut_digit
    {c : Char}
    (h : c.isDigit = true)
    (rest : List Symbol) :
    cut c rest = numberToken false (some c :: rest) := by
  have hc := isDigit_cases h
  simp only [List.mem_cons, List.not_mem_nil, or_false] at hc
  rcases hc with rfl | rfl | rfl | rfl | rfl | rfl | rfl | rfl | rfl | rfl <;> rfl

theorem isSpace_of_isDigit
    {c : Char}
    (h : c.isDigit = true) :
    isSpace c = false := by
  have hc := isDigit_cases h
  simp only [List.mem_cons, List.not_mem_nil, or_false] at hc
  rcases hc with rfl | rfl | rfl | rfl | rfl | rfl | rfl | rfl | rfl | rfl <;> rfl

theorem tokens_number
    {w : Spelling}
    (hw : w.Valid)
    (negative : Bool)
    {rest : List Symbol}
    (hrest : Stops rest) :
    tokens (((if negative then ['-'] else []) ++ w.text).map some ++ rest) =
      .number (w.literal negative).value :: tokens rest := by
  have hliteral := literal?_text hw negative hrest
  cases negative with
  | true =>
      have hcut : cut '-' (w.text.map some ++ rest) = numberToken true (w.text.map some ++ rest) := rfl
      simp only [if_true, List.cons_append, List.nil_append, List.map_cons]
      rw [tokens.eq_def]
      simp [isSpace, hcut, numberToken, hliteral]
  | false =>
      obtain ⟨c, cs, hcs⟩ : ∃ c cs, w.whole = c :: cs := List.exists_cons_of_ne_nil hw.whole.1
      have hdigit : c.isDigit = true := hw.whole.2 c (by rw [hcs]; exact List.mem_cons_self)
      obtain ⟨cs', htext⟩ : ∃ cs', w.text = c :: cs' := ⟨_, by rw [Spelling.text, hcs]; rfl⟩
      rw [htext] at hliteral ⊢
      simp only [Bool.false_eq_true, if_false, List.nil_append, List.map_cons, List.cons_append] at hliteral ⊢
      rw [tokens.eq_def]
      simp [isSpace_of_isDigit hdigit, cut_digit hdigit, numberToken, hliteral]

/-! ## Whole numbers -/

/-- How a natural number is written. -/
def natSpelling (n : Nat) : Spelling :=
  ⟨Nat.toDigits 10 n, none, none⟩

theorem natSpelling_valid (n : Nat) : (natSpelling n).Valid := by
  refine ⟨areDigits_toDigits n, ?_, by simp [natSpelling]⟩
  intro hhead
  simp [natSpelling, head?_toDigits hhead]

/-- What a written whole number stands for. -/
def intNumeral (i : Int) : Decimal.Numeral :=
  ((natSpelling i.natAbs).literal (i < 0)).value

theorem intText_eq (i : Int) :
    Decimal.intText i = (if decide (i < 0) then ['-'] else []) ++ (natSpelling i.natAbs).text := by
  have hnat : ∀ n : Nat, (natSpelling n).text = Nat.toDigits 10 n := by
    intro n
    simp [natSpelling, Spelling.text, Spelling.fractionText, Spelling.exponentText]
  rw [hnat, Decimal.intText]
  cases i with
  | ofNat n => simp [toString, Int.repr]
  | negSucc n => simp [toString, Int.repr]

theorem tokens_int
    (i : Int)
    {rest : List Symbol}
    (hrest : Stops rest) :
    tokens ((Decimal.intText i).map some ++ rest) = .number (intNumeral i) :: tokens rest := by
  rw [intText_eq]
  exact tokens_number (natSpelling_valid i.natAbs) (decide (i < 0)) hrest

theorem le_foldl_digits (ds : List Nat) (n : Nat) : n ≤ ds.foldl (fun n d => n * 10 + d) n := by
  induction ds generalizing n with
  | nil => exact Nat.le_refl n
  | cons d ds ih =>
      have := ih (n * 10 + d)
      rw [List.foldl_cons]
      omega

/-- Digits that stay within the limit are all kept. -/
theorem gather_of_le
    {ds : List Nat}
    {n : Nat}
    (h : ds.foldl (fun n d => n * 10 + d) n ≤ Decimal.significandLimit) :
    Decimal.gather n ds = (ds.foldl (fun n d => n * 10 + d) n, ds.length) := by
  induction ds generalizing n with
  | nil => rfl
  | cons d ds ih =>
      rw [List.foldl_cons] at h
      have hle : n * 10 + d ≤ Decimal.significandLimit :=
        Nat.le_trans (le_foldl_digits ds _) h
      rw [Decimal.gather, if_pos hle, ih h]
      rfl

/-- A whole number of 64 bits, with or without a sign, is exact. -/
theorem intNumeral_eq
    {i : Int}
    (hlow : -(Decimal.negativeLimit : Int) ≤ i)
    (hhigh : i ≤ Decimal.significandLimit) :
    intNumeral i = .int i := by
  obtain ⟨n, hn⟩ : ∃ n, n = i.natAbs := ⟨_, rfl⟩
  have hle : n ≤ Decimal.significandLimit := by
    unfold Decimal.negativeLimit Decimal.significandLimit at *
    omega
  have hgather : Decimal.gather 0 ((Nat.toDigits 10 n).map digitValue) =
      (n, (Nat.toDigits 10 n).length) := by
    have hvalue := ofDigits_toDigits n
    rw [ofDigits] at hvalue
    rw [gather_of_le (by rw [hvalue]; exact hle), hvalue, List.length_map]
  by_cases hsign : i < 0
  · have hneg : n ≤ Decimal.negativeLimit := by omega
    have hpos : 0 < n := by omega
    have hvalue : -(n : Int) = i := by omega
    simp [intNumeral, natSpelling, Spelling.literal, Decimal.Literal.value, hgather, hsign, hneg,
      hpos, hvalue, ← hn]
  · simp [intNumeral, natSpelling, Spelling.literal, Decimal.Literal.value, hgather, hsign, ← hn]
    omega

/-- Digits that are all kept make up the significand. -/
theorem gather_all
    {ds : List Nat}
    {n : Nat}
    (h : (Decimal.gather n ds).2 = ds.length) :
    (Decimal.gather n ds).1 = ds.foldl (fun n d => n * 10 + d) n := by
  induction ds generalizing n with
  | nil => rfl
  | cons d ds ih =>
      unfold Decimal.gather at h ⊢
      split at h
      · next hle =>
        rw [if_pos hle]
        exact ih (Nat.succ.inj h)
      · cases h

/-- A written whole number that stands for a whole number stands for itself. -/
theorem eq_of_intNumeral
    {i j : Int}
    (h : intNumeral i = .int j) :
    j = i := by
  have hvalue : (Decimal.gather 0 ((Nat.toDigits 10 i.natAbs).map digitValue)).2 =
        ((Nat.toDigits 10 i.natAbs).map digitValue).length →
      (Decimal.gather 0 ((Nat.toDigits 10 i.natAbs).map digitValue)).1 = i.natAbs := by
    intro hall
    rw [gather_all hall]
    exact ofDigits_toDigits i.natAbs
  simp only [intNumeral, natSpelling, Spelling.literal, Decimal.Literal.value] at h
  simp only [Option.map_none, Option.isNone_none, Bool.true_and, Bool.and_eq_true, beq_iff_eq,
    Bool.not_eq_true', decide_eq_false_iff_not] at h
  split at h
  · next hexact =>
    cases h
    have := hvalue hexact.1
    omega
  · split at h
    · next hsign hexact =>
      cases h
      have := hvalue hexact.1.1
      omega
    · split at h
      · cases h
      · unfold Decimal.assemble at h
        split at h <;> cases h

end Json
end TournamentDesk
