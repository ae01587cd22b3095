import TournamentDesk.Decimal.Numeral
import TournamentDesk.Text.Scan
import TournamentDesk.Text.Symbols

/-!
# JSON tokens

A text is cut into tokens from left to right. A place where no token stands becomes `junk`, and
nothing behind it is looked at. A string that holds no text, because of damaged octets or of half a
surrogate pair, is still a token: it may stand where its content does not matter.
-/

namespace TournamentDesk
namespace Json

open Text (Symbol)
open Decimal (Literal Numeral)

/-- The tokens of JSON. -/
inductive Token where
  | arrayStart
  | arrayEnd
  | objectStart
  | objectEnd
  | comma
  | colon
  | null
  | bool (b : Bool)
  | number (n : Numeral)
  /-- A string, or `none` when what it holds is no text. -/
  | string (s : Option String)
  /-- A place where no token stands. -/
  | junk

/-- The four characters that may stand between tokens. -/
def isSpace (c : Char) : Bool :=
  c = ' ' || c = '\n' || c = '\t' || c = '\r'

def digit? (s : Symbol) : Option Nat :=
  match s with
  | some c => if c.isDigit then some (c.toNat - '0'.toNat) else none
  | none => none

/-- The value of a hexadecimal digit, in either case. -/
def hexDigit? (s : Symbol) : Option Nat :=
  s.bind Text.hexValue?

/-! ## Strings -/

/-- What a string is made of. -/
inductive Piece where
  /-- A character, plain or escaped by a letter. -/
  | char (c : Char)
  /-- A 16-bit unit escaped in hexadecimal. -/
  | unit (u : Nat)
  /-- A damaged place. -/
  | gap
deriving DecidableEq, Repr

/-- The character that a letter behind a backslash stands for. -/
def escaped? (c : Char) : Option Char :=
  if c = '"' || c = '\\' || c = '/' then some c
  else if c = 'b' then some (Char.ofNat 0x8)
  else if c = 'f' then some (Char.ofNat 0xC)
  else if c = 'n' then some '\n'
  else if c = 'r' then some '\r'
  else if c = 't' then some '\t'
  else none

/-- The number that four hexadecimal digits stand for. -/
def unit? (a b c d : Symbol) : Option Nat :=
  match hexDigit? a, hexDigit? b, hexDigit? c, hexDigit? d with
  | some a, some b, some c, some d => some (((a * 16 + b) * 16 + c) * 16 + d)
  | _, _, _, _ => none

/-- The pieces of a string up to its closing quotation mark, and what stands behind it. -/
def pieces : List Symbol → Option (List Piece × List Symbol)
  | [] => none
  | none :: rest => (pieces rest).map fun r => (.gap :: r.1, r.2)
  | some c :: rest =>
    if c = '"' then some ([], rest)
    else if c = '\\' then
      match rest with
      | some e :: rest =>
        if e = 'u' then
          match rest with
          | a :: b :: c :: d :: rest =>
            match unit? a b c d with
            | some u => (pieces rest).map fun r => (.unit u :: r.1, r.2)
            | none => none
          | _ => none
        else
          match escaped? e with
          | some e => (pieces rest).map fun r => (.char e :: r.1, r.2)
          | none => none
      | _ => none
    else if c.toNat < 0x20 then none
    else (pieces rest).map fun r => (.char c :: r.1, r.2)

/-- Whether a unit is the first half of a surrogate pair. -/
def isHighHalf (u : Nat) : Bool :=
  0xD800 ≤ u && u < 0xDC00

/-- Whether a unit is the second half of a surrogate pair. -/
def isLowHalf (u : Nat) : Bool :=
  0xDC00 ≤ u && u < 0xE000

/-- The text that pieces make up, or `none` at a damaged place or half a surrogate pair. -/
def join : List Piece → Option (List Char)
  | [] => some []
  | .char c :: rest => (join rest).map (c :: ·)
  | .gap :: _ => none
  | .unit u :: rest =>
    if isHighHalf u then
      match rest with
      | .unit v :: rest =>
        if isLowHalf v then
          (join rest).map (Char.ofNat (0x10000 + (u - 0xD800) * 0x400 + (v - 0xDC00)) :: ·)
        else none
      | _ => none
    else if isLowHalf u then none
    else (join rest).map (Char.ofNat u :: ·)

/-! ## Numbers -/

/-- The decimal digits a text starts with, and what stands behind them. -/
def digits : List Symbol → List Nat × List Symbol
  | [] => ([], [])
  | s :: rest =>
    match digit? s with
    | some d => (d :: (digits rest).1, (digits rest).2)
    | none => ([], s :: rest)

/-- At least one digit. -/
def digits1? (s : List Symbol) : Option (List Nat × List Symbol) :=
  match digits s with
  | ([], _) => none
  | r => some r

/-- The digits before the point: a leading zero stands alone. -/
def wholePart? (s : List Symbol) : Option (List Nat × List Symbol) :=
  match digits1? s with
  | some (0 :: _ :: _, _) => none
  | r => r

/-- The point and the digits behind it, if there is a point. -/
def fractionPart? : List Symbol → Option (Option (List Nat) × List Symbol)
  | some '.' :: rest => (digits1? rest).map fun r => (some r.1, r.2)
  | rest => some (none, rest)

/-- The number that decimal digits stand for. -/
def ofDigits (ds : List Nat) : Nat :=
  ds.foldl (fun n d => n * 10 + d) 0

/-- The exponent of ten, if one is written. -/
def exponentPart? : List Symbol → Option (Option Int × List Symbol)
  | some c :: rest =>
    if c = 'e' || c = 'E' then
      match rest with
      | some '+' :: rest => (digits1? rest).map fun r => (some (ofDigits r.1 : Int), r.2)
      | some '-' :: rest => (digits1? rest).map fun r => (some (-(ofDigits r.1 : Int)), r.2)
      | rest => (digits1? rest).map fun r => (some (ofDigits r.1 : Int), r.2)
    else some (none, some c :: rest)
  | rest => some (none, rest)

/-- A number without its sign. -/
def literal? (negative : Bool) (s : List Symbol) : Option (Literal × List Symbol) := do
  let (whole, s) ← wholePart? s
  let (fraction, s) ← fractionPart? s
  let (exponent, s) ← exponentPart? s
  return (⟨negative, whole, fraction, exponent⟩, s)

/-! ## Tokens -/

/-- A token and what stands behind it. -/
abbrev Cut := Token × List Symbol

/-- The token for a place where none stands. -/
def noToken : Cut :=
  (.junk, [])

/-- A word that is spelled out in full. -/
def word (token : Token) (letters : List Char) (s : List Symbol) : Cut :=
  if (letters.map some).isPrefixOf s then (token, s.drop letters.length) else noToken

def numberToken (negative : Bool) (s : List Symbol) : Cut :=
  match literal? negative s with
  | some (l, rest) => (.number l.value, rest)
  | none => noToken

/-- A string, behind its opening quotation mark. -/
def stringToken (s : List Symbol) : Cut :=
  match pieces s with
  | some (ps, rest) => (.string ((join ps).map String.ofList), rest)
  | none => noToken

/-- The token that starts with a character. -/
def cut (c : Char) (rest : List Symbol) : Cut :=
  if c = '[' then (.arrayStart, rest)
  else if c = ']' then (.arrayEnd, rest)
  else if c = '{' then (.objectStart, rest)
  else if c = '}' then (.objectEnd, rest)
  else if c = ',' then (.comma, rest)
  else if c = ':' then (.colon, rest)
  else if c = '"' then stringToken rest
  else if c = 'n' then word .null ['u', 'l', 'l'] rest
  else if c = 't' then word (.bool true) ['r', 'u', 'e'] rest
  else if c = 'f' then word (.bool false) ['a', 'l', 's', 'e'] rest
  else if c = '-' then numberToken true rest
  else if c.isDigit then numberToken false (some c :: rest)
  else noToken

/-! ## Each token takes at least one character -/

private theorem pieces_length {s : List Symbol} {r : List Piece × List Symbol}
    (h : pieces s = some r) : r.2.length < s.length := by
  fun_induction pieces s generalizing r with
  | case1 => simp at h
  | case2 rest ih =>
    obtain ⟨t, ht, rfl⟩ := Option.map_eq_some_iff.1 h
    have := ih ht
    simp only [List.length_cons]
    omega
  | case3 rest =>
    cases h
    simp
  | case4 _ _ _ _ _ _ _ _ ih =>
    obtain ⟨t, ht, rfl⟩ := Option.map_eq_some_iff.1 h
    have := ih ht
    simp only [List.length_cons]
    omega
  | case5 => simp at h
  | case6 => simp at h
  | case7 _ _ _ _ _ _ ih =>
    obtain ⟨t, ht, rfl⟩ := Option.map_eq_some_iff.1 h
    have := ih ht
    simp only [List.length_cons]
    omega
  | case8 => simp at h
  | case9 => simp at h
  | case10 => simp at h
  | case11 c rest _ _ _ ih =>
    obtain ⟨t, ht, rfl⟩ := Option.map_eq_some_iff.1 h
    have := ih ht
    simp only [List.length_cons]
    omega

private theorem digits_length (s : List Symbol) : (digits s).2.length ≤ s.length := by
  induction s with
  | nil => simp [digits]
  | cons s rest ih =>
    unfold digits
    split
    · simp only [List.length_cons]
      omega
    · simp

private theorem digits1?_length {s : List Symbol} {r : List Nat × List Symbol}
    (h : digits1? s = some r) : r.2.length < s.length := by
  cases s with
  | nil => simp [digits1?, digits] at h
  | cons a rest =>
    unfold digits1? digits at h
    split at h
    · simp at h
    · cases hd : digit? a with
      | none => simp_all
      | some d =>
        have := digits_length rest
        simp only [hd] at h
        cases h
        simp only [List.length_cons]
        omega

private theorem wholePart?_length {s : List Symbol} {r : List Nat × List Symbol}
    (h : wholePart? s = some r) : r.2.length < s.length := by
  unfold wholePart? at h
  split at h
  · simp at h
  · exact digits1?_length h

private theorem fractionPart?_length {s : List Symbol} {r : Option (List Nat) × List Symbol}
    (h : fractionPart? s = some r) : r.2.length ≤ s.length := by
  unfold fractionPart? at h
  split at h
  · obtain ⟨t, ht, rfl⟩ := Option.map_eq_some_iff.1 h
    have := digits1?_length ht
    simp only [List.length_cons]
    omega
  · cases h
    simp

private theorem exponentPart?_length {s : List Symbol} {r : Option Int × List Symbol}
    (h : exponentPart? s = some r) : r.2.length ≤ s.length := by
  unfold exponentPart? at h
  split at h
  · split at h
    · split at h
      all_goals
        obtain ⟨t, ht, rfl⟩ := Option.map_eq_some_iff.1 h
        have := digits1?_length ht
        simp only [List.length_cons]
        omega
    · cases h
      simp
  · cases h
    simp

private theorem literal?_length {negative : Bool} {s : List Symbol} {r : Literal × List Symbol}
    (h : literal? negative s = some r) : r.2.length < s.length := by
  unfold literal? at h
  cases hw : wholePart? s with
  | none => simp [hw] at h
  | some w =>
    cases hf : fractionPart? w.2 with
    | none => simp [hw, hf] at h
    | some f =>
      cases he : exponentPart? f.2 with
      | none => simp [hw, hf, he] at h
      | some e =>
        simp only [hw, hf, he, Option.bind_eq_bind, Option.bind_some, Option.pure_def,
          Option.some.injEq] at h
        have := wholePart?_length hw
        have := fractionPart?_length hf
        have := exponentPart?_length he
        cases h
        simp only
        omega

private theorem numberToken_length (negative : Bool) (s : List Symbol) :
    (numberToken negative s).2.length ≤ s.length - 1 := by
  unfold numberToken
  split
  · next h => exact Nat.le_sub_one_of_lt (literal?_length h)
  · simp [noToken]

private theorem noToken_length (s : List Symbol) : noToken.2.length ≤ s.length :=
  Nat.zero_le _

private theorem stringToken_length (s : List Symbol) :
    (stringToken s).2.length ≤ s.length := by
  unfold stringToken
  split
  · next h => exact Nat.le_of_lt (pieces_length h)
  · simp [noToken]

private theorem word_length (token : Token) (letters : List Char) (s : List Symbol) :
    (word token letters s).2.length ≤ s.length := by
  unfold word
  split
  · simp
  · simp [noToken]

private theorem ite_length {p : Prop} [Decidable p] {a b : Cut} {n : Nat}
    (ha : a.2.length ≤ n)
    (hb : b.2.length ≤ n) :
    (if p then a else b).2.length ≤ n := by
  split
  · exact ha
  · exact hb

theorem cut_length (c : Char) (rest : List Symbol) : (cut c rest).2.length ≤ rest.length := by
  have here : rest.length ≤ rest.length := Nat.le_refl _
  unfold cut
  refine ite_length here (ite_length here (ite_length here (ite_length here ?_)))
  refine ite_length here (ite_length here (ite_length (stringToken_length rest) ?_))
  refine ite_length (word_length _ _ rest) (ite_length (word_length _ _ rest) ?_)
  refine ite_length (word_length _ _ rest) (ite_length ?_ (ite_length ?_ (noToken_length rest)))
  · exact Nat.le_trans (numberToken_length true rest) (Nat.sub_le _ _)
  · exact numberToken_length false (some c :: rest)

/-- The tokens of a text. -/
def tokens : List Symbol → List Token
  | [] => []
  | none :: _ => [.junk]
  | some c :: rest =>
    if isSpace c then tokens rest else (cut c rest).1 :: tokens (cut c rest).2
termination_by s => s.length
decreasing_by
  · simp
  · have := cut_length c rest
    simp only [List.length_cons]
    omega

end Json
end TournamentDesk
