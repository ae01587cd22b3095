import Mathlib.Data.List.DropRight
import Mathlib.Data.List.Infix
import TournamentDesk.Text.LowerCase

/-!
# Names without blanks at their ends

A name that has been trimmed stays as it is when it is trimmed again, and counts as the same name as
before.

* `trim_trim`: trimming twice is trimming once.
* `trim_append_blanks`: blanks behind a name make no difference to the trimmed name.
* `normalForm_trim`: a trimmed name has the normal form of the name.
* `isBlank_iff_normalForm`: lower-casing leaves no name empty that is not blank.
-/

namespace TournamentDesk
namespace Text

/-- What is left of a text does not start with a blank. -/
theorem dropWhile_trimList (cs : List Char) :
    (trimList cs).dropWhile isBlankChar = trimList cs := by
  rw [List.dropWhile_eq_self_iff]
  intro hpos
  have hinitial : trimList cs <+: cs.dropWhile isBlankChar := List.rdropWhile_prefix isBlankChar _
  rw [hinitial.getElem hpos]
  exact List.dropWhile_get_zero_not _ cs (hpos.trans_le hinitial.length_le)

theorem trimList_trimList (cs : List Char) : trimList (trimList cs) = trimList cs :=
  calc
    trimList (trimList cs) = ((trimList cs).dropWhile isBlankChar).rdropWhile isBlankChar := rfl
    _ = (trimList cs).rdropWhile isBlankChar := by rw [dropWhile_trimList]
    _ = trimList cs := List.rdropWhile_idempotent isBlankChar _

theorem trim_trim (s : String) : trim (trim s) = trim s := by
  rw [trim, trim, String.toList_ofList, trimList_trimList]

/-- Blanks behind a text are trimmed away, however many there are. -/
theorem trim_append_blanks
    (s : String)
    {blanks : List Char}
    (h : ∀ c ∈ blanks, isBlankChar c = true) :
    trim (s ++ String.ofList blanks) = trim s := by
  have hnone : blanks.dropWhile isBlankChar = [] := List.dropWhile_eq_nil_iff.2 h
  have hbehind (cs : List Char) :
      (blanks.reverse ++ cs).dropWhile isBlankChar = cs.dropWhile isBlankChar :=
    List.dropWhile_append_of_pos fun c hc => h c (List.mem_reverse.1 hc)
  have hlist : trimList (s.toList ++ blanks) = trimList s.toList := by
    rw [trimList, List.dropWhile_append]
    split
    · next hempty =>
      rw [trimList, List.isEmpty_iff.1 hempty, hnone]
    · rw [List.reverse_append, hbehind, trimList]
  rw [trim, trim, String.toList_append, String.toList_ofList, hlist]

theorem normalForm_trim (name : String) : normalForm (trim name) = normalForm name := by
  rw [normalForm, trim_trim, normalForm]

/-! ## Blank names -/

theorem lowerChar_ne_nil (c : Char) : lowerChar c ≠ [] := by
  unfold lowerChar
  extract_lets n
  split
  · exact List.cons_ne_nil _ _
  split
  · exact List.cons_ne_nil _ _
  split <;> exact List.cons_ne_nil _ _

theorem lower_eq_empty_iff (s : String) : lower s = "" ↔ s = "" := by
  constructor
  · intro h
    have hnil : lowerAfter [] s.toList = [] := by simpa [lower] using h
    cases hs : s.toList with
    | nil => exact String.toList_eq_nil_iff.1 hs
    | cons c cs =>
        rw [hs, lowerAfter, List.append_eq_nil_iff] at hnil
        have hfirst := hnil.1
        split at hfirst
        · cases hfirst
        · exact absurd hfirst (lowerChar_ne_nil c)
  · rintro rfl
    rfl

/-- A name is blank exactly when its normal form is empty. -/
theorem isBlank_iff_normalForm (name : String) : isBlank name = true ↔ normalForm name = "" := by
  rw [isBlank_iff_trim, normalForm, lower_eq_empty_iff]

/-- Two spellings of a name are both blank or both not. -/
theorem isBlank_eq_of_normalForm_eq
    {name other : String}
    (h : normalForm name = normalForm other) :
    isBlank name = isBlank other := by
  rw [Bool.eq_iff_iff, isBlank_iff_normalForm, isBlank_iff_normalForm, h]

end Text
end TournamentDesk
