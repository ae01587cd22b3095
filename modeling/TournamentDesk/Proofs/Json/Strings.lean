import TournamentDesk.Json.Token
import TournamentDesk.Json.Value

/-!
# Strings and back

Whatever a string holds, its escaped text is read as the same string, up to the quotation mark behind
it.

* `stringToken_text`: the token of a written string is the string.
-/

namespace TournamentDesk
namespace Json

open Text (Symbol)

/-- The piece as which an escaped character is read. -/
def pieceOf (c : Char) : Piece :=
  if c.toNat < 0x20 ∧
      c ≠ Char.ofNat 0x8 ∧ c ≠ Char.ofNat 0xC ∧ c ≠ '\n' ∧ c ≠ '\r' ∧ c ≠ '\t' then
    .unit c.toNat
  else .char c

theorem hexValue?_hexDigit (n : Nat) : Text.hexValue? (hexDigit n) = some (n % 16) := by
  have hall : ∀ d < 16, Text.hexValue? (Nat.digitChar d) = some d := by decide
  exact hall (n % 16) (Nat.mod_lt n (by decide))

/-- A control character has a code of two digits. -/
theorem unit?_control
    {c : Char}
    (h : c.toNat < 0x20) :
    unit? (some '0') (some '0') (some (hexDigit (c.toNat / 16))) (some (hexDigit c.toNat)) =
      some c.toNat := by
  have hzero : Text.hexValue? '0' = some 0 := by decide
  simp only [unit?, hexDigit?, Option.bind_some, hexValue?_hexDigit, hzero, Option.some.injEq]
  omega

/-- A character that is not escaped stands for itself. -/
theorem pieces_plain
    {c : Char}
    (hquote : c ≠ '"')
    (hslash : c ≠ '\\')
    (hplain : ¬ c.toNat < 0x20)
    (rest : List Symbol) :
    pieces (some c :: rest) = (pieces rest).map fun r => (.char c :: r.1, r.2) := by
  rw [pieces.eq_def]
  simp [hquote, hslash, hplain]

/-- A letter behind a backslash stands for a character. -/
theorem pieces_escaped
    {e c : Char}
    (hunit : e ≠ 'u')
    (hescaped : escaped? e = some c)
    (rest : List Symbol) :
    pieces (some '\\' :: some e :: rest) = (pieces rest).map fun r => (.char c :: r.1, r.2) := by
  rw [pieces.eq_def]
  simp [hunit, hescaped]

theorem pieces_unit
    {a b c d : Symbol}
    {u : Nat}
    (hunit : unit? a b c d = some u)
    (rest : List Symbol) :
    pieces (some '\\' :: some 'u' :: a :: b :: c :: d :: rest) =
      (pieces rest).map fun r => (.unit u :: r.1, r.2) := by
  rw [pieces.eq_def]
  simp [hunit]

theorem pieces_escapeChar
    (c : Char)
    (rest : List Symbol) :
    pieces ((escapeChar c).map some ++ rest) =
      (pieces rest).map fun r => (pieceOf c :: r.1, r.2) := by
  unfold escapeChar
  split
  · next hc =>
    subst hc
    exact pieces_escaped (by decide) (by decide) rest
  split
  · next hc =>
    subst hc
    exact pieces_escaped (by decide) (by decide) rest
  split
  · next hc =>
    subst hc
    exact pieces_escaped (by decide) (by decide) rest
  split
  · next hc =>
    subst hc
    exact pieces_escaped (by decide) (by decide) rest
  split
  · next hc =>
    subst hc
    exact pieces_escaped (by decide) (by decide) rest
  split
  · next hc =>
    subst hc
    exact pieces_escaped (by decide) (by decide) rest
  split
  · next hc =>
    subst hc
    exact pieces_escaped (by decide) (by decide) rest
  split
  · next hquote hslash hback hfeed hline hreturn htab hcontrol =>
    have hpiece : pieceOf c = .unit c.toNat :=
      if_pos ⟨hcontrol, hback, hfeed, hline, hreturn, htab⟩
    rw [hpiece]
    exact pieces_unit (unit?_control hcontrol) rest
  · next hquote hslash _ _ _ _ _ hplain =>
    have hpiece : pieceOf c = .char c := if_neg fun h => hplain h.1
    rw [hpiece]
    exact pieces_plain hquote hslash hplain rest

theorem pieces_text
    (cs : List Char)
    (rest : List Symbol) :
    pieces ((cs.flatMap escapeChar).map some ++ some '"' :: rest) = some (cs.map pieceOf, rest) := by
  induction cs with
  | nil =>
      rw [pieces.eq_def]
      simp
  | cons c cs ih =>
      rw [List.flatMap_cons, List.map_append, List.append_assoc, pieces_escapeChar, ih]
      rfl

theorem pieceOf_cases (c : Char) :
    pieceOf c = .char c ∨ pieceOf c = .unit c.toNat ∧ c.toNat < 0x20 := by
  unfold pieceOf
  split
  · next h => exact Or.inr ⟨rfl, h.1⟩
  · exact Or.inl rfl

/-- A control character is no half of a pair. -/
theorem join_control
    {u : Nat}
    (h : u < 0x20)
    (ps : List Piece) :
    join (.unit u :: ps) = (join ps).map (Char.ofNat u :: ·) := by
  have hhigh : isHighHalf u = false := by
    simp [isHighHalf]
    omega
  have hlow : isLowHalf u = false := by
    simp [isLowHalf]
    omega
  rw [join.eq_def]
  simp [hhigh, hlow]

theorem join_pieceOf (cs : List Char) : join (cs.map pieceOf) = some cs := by
  induction cs with
  | nil => rfl
  | cons c cs ih =>
      rw [List.map_cons]
      rcases pieceOf_cases c with hc | ⟨hc, hcontrol⟩
      · rw [hc, join, ih]
        rfl
      · rw [hc, join_control hcontrol, ih, Char.ofNat_toNat]
        rfl

/-- The token of a written string is the string. -/
theorem stringToken_text
    (s : String)
    (rest : List Symbol) :
    stringToken ((s.toList.flatMap escapeChar).map some ++ some '"' :: rest) =
      (.string (some s), rest) := by
  rw [stringToken, pieces_text]
  simp [join_pieceOf]

end Json
end TournamentDesk
