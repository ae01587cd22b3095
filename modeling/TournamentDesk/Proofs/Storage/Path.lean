import Mathlib.Data.List.DropRight
import Mathlib.Data.String.Basic
import TournamentDesk.Storage.Path

/-!
# Written paths and front parts

* `Path.ofString_eq`: a written path by its characters.
* `Path.Valid.of_prefix`: a front part of a path can be asked for if the path can.
* `Path.parent_prefix`: the path of the directory above is a front part.
-/

namespace TournamentDesk
namespace Storage

/-! ## Written paths -/

section WrittenPaths

open String

/-- Splitting at slashes, with the characters before the current part, the ones of it and the ones behind. -/
theorem splitOnAux_slash
    (before part behind : List Char)
    (found : List String) :
    (ofList (before ++ part ++ behind)).splitOnAux
        "/" ⟨utf8Len before⟩ ⟨utf8Len before + utf8Len part⟩ 0 found =
      found.reverse ++ (List.splitOnPPrepend (fun c => c == '/') behind part.reverse).map ofList := by
  induction behind generalizing before part found with
  | nil =>
      have hend := (atEnd_of_valid (before ++ part) []).2 rfl
      rw [utf8Len_append] at hend
      rw [splitOnAux, if_pos hend, extract_of_valid before part []]
      simp
  | cons c behind ih =>
      have hmore : Pos.Raw.atEnd (ofList (before ++ part ++ c :: behind)) ⟨utf8Len before + utf8Len part⟩ ≠
          true := by
        rw [← utf8Len_append]
        exact fun h => absurd ((atEnd_of_valid (before ++ part) (c :: behind)).1 h) (by simp)
      have hget : Pos.Raw.get (ofList (before ++ part ++ c :: behind)) ⟨utf8Len before + utf8Len part⟩ = c := by
        rw [← utf8Len_append]
        exact get_of_valid (before ++ part) (c :: behind)
      have hnext : Pos.Raw.next (ofList (before ++ part ++ c :: behind)) ⟨utf8Len before + utf8Len part⟩ =
          ⟨utf8Len (before ++ part ++ [c])⟩ := by
        rw [← utf8Len_append, next_of_valid, utf8Len_append (before ++ part)]
        simp
      have hslash : Pos.Raw.get "/" 0 = '/' := rfl
      rw [splitOnAux, if_neg hmore, hget, hslash]
      by_cases hc : c = '/'
      · subst hc
        have hend : Pos.Raw.atEnd "/" (Pos.Raw.next "/" 0) = true := rfl
        have hback : Pos.Raw.unoffsetBy ⟨utf8Len (before ++ part ++ ['/'])⟩ (Pos.Raw.next "/" 0) =
            ⟨utf8Len before + utf8Len part⟩ := by
          have hone : Pos.Raw.next "/" 0 = ⟨1⟩ := rfl
          have hsize : '/'.utf8Size = 1 := rfl
          simp [hone, hsize, Pos.Raw.unoffsetBy]
        have hrest := ih (before ++ part ++ ['/']) [] (ofList part :: found)
        simp only [beq_self_eq_true, if_true, hnext, hend, hback, extract_of_valid before part ('/' :: behind)]
        simpa [List.splitOnPPrepend_cons_eq_if] using hrest
      · have hsame : Pos.Raw.unoffsetBy ⟨utf8Len before + utf8Len part⟩ 0 =
            ⟨utf8Len before + utf8Len part⟩ := by
          simp [Pos.Raw.unoffsetBy]
        have hrest := ih before (part ++ [c]) found
        simp only [beq_false_of_ne hc, Bool.false_eq_true, if_false, hsame, hnext]
        simpa [List.splitOnPPrepend_cons_eq_if, hc, Nat.add_assoc] using hrest

/-- The parts of a written path are the parts of its characters between slashes. -/
theorem Path.ofString_eq
    (s : String) :
    Path.ofString s = ((s.toList.splitOn '/').map ofList).filter fun part => part ≠ "" := by
  have hsplit := splitOnAux_slash [] [] s.toList []
  rw [List.nil_append, List.nil_append, ofList_toList] at hsplit
  rw [Path.ofString, String.splitOn, if_neg (by decide)]
  exact congrArg _ hsplit

end WrittenPaths

/-! ## Front parts of paths -/

theorem Path.text_size_le
    (p q : Path) :
    p.text.utf8ByteSize ≤ (Path.text (p ++ q)).utf8ByteSize := by
  unfold Path.text
  induction p with
  | nil => simp
  | cons part p ih =>
      cases p with
      | nil =>
          cases q with
          | nil => exact Nat.le_refl _
          | cons next q =>
              simp only [List.cons_append, List.nil_append, String.intercalate_singleton,
                String.intercalate_cons_cons, String.utf8ByteSize_append]
              omega
      | cons next p =>
          simp only [List.cons_append, String.intercalate_cons_cons, String.utf8ByteSize_append] at ih ⊢
          omega

/-- A path that can be asked for. -/
structure Path.Valid (p : Path) : Prop where
  uncut : p.isCut = false
  short : p.isTooLong = false

theorem Path.Valid.of_prefix
    {front p : Path}
    (h : p.Valid)
    (hfront : front <+: p) :
    front.Valid := by
  obtain ⟨rest, rfl⟩ := hfront
  obtain ⟨huncut, hshort⟩ := h
  constructor
  · unfold Path.isCut at huncut ⊢
    rw [List.any_append, Bool.or_eq_false_iff] at huncut
    exact huncut.1
  · have hle := Path.text_size_le front rest
    simp only [Path.isTooLong, decide_eq_false_iff_not, Nat.not_lt] at hshort ⊢
    exact hle.trans hshort

theorem Path.text_size_le_of_longer
    (p : Path)
    (name suffix : String) :
    (Path.text (p ++ [name])).utf8ByteSize ≤ (Path.text (p ++ [name ++ suffix])).utf8ByteSize := by
  unfold Path.text
  induction p with
  | nil => simp
  | cons part p ih =>
      cases p with
      | nil =>
          simp only [List.cons_append, List.nil_append, String.intercalate_singleton,
            String.intercalate_cons_cons, String.utf8ByteSize_append]
          omega
      | cons next p =>
          simp only [List.cons_append, String.intercalate_cons_cons, String.utf8ByteSize_append] at ih ⊢
          omega

/-- A path can be asked for if the path with a longer name at its end can. -/
theorem Path.Valid.of_longer
    {p : Path}
    {name suffix : String}
    (h : Path.Valid (p ++ [name ++ suffix])) :
    Path.Valid (p ++ [name]) := by
  obtain ⟨huncut, hshort⟩ := h
  constructor
  · unfold Path.isCut at huncut ⊢
    simp only [List.any_append, List.any_cons, List.any_nil, Bool.or_false, Bool.or_eq_false_iff,
      String.toList_append, List.contains_append] at huncut ⊢
    exact ⟨huncut.1, huncut.2.1⟩
  · have hle := Path.text_size_le_of_longer p name suffix
    simp only [Path.isTooLong, decide_eq_false_iff_not, Nat.not_lt] at hshort ⊢
    exact hle.trans hshort

theorem Path.trimmed_prefix (p : Path) : p.trimmed <+: p :=
  List.rdropWhile_prefix _ p

theorem Path.parent_prefix (p : Path) : p.parent <+: p :=
  (Path.trimmed_prefix _).trans ((List.dropLast_prefix _).trans p.trimmed_prefix)

end Storage
end TournamentDesk
