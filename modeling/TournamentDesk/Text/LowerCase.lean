import TournamentDesk.Text.Blank
import TournamentDesk.Text.CaseData

/-!
# Lower-casing

The full lower-casing of the Unicode standard, without language rules: each character is replaced by
its lower-case form, U+0130 by two characters, and a capital sigma by the final form at the end of a
word and by the ordinary one elsewhere.

Two names count as the same name when their normal forms, trimmed and then lower-cased, are equal.
-/

namespace TournamentDesk
namespace Text

def inRanges (ranges : List (Nat × Nat)) (n : Nat) : Bool :=
  ranges.any fun r => r.1 ≤ n && n ≤ r.2

/-- Whether a code point lies on a run `(first, last, step, shift)`. -/
def onRun (n : Nat) (run : Nat × Nat × Nat × Int) : Bool :=
  run.1 ≤ n && n ≤ run.2.1 && (n - run.1) % run.2.2.1 == 0

/-- The lower-case form of a single character, without looking at its neighbours. -/
def lowerChar (c : Char) : List Char :=
  let n := c.toNat
  if n < 0x80 then [c.toLower]
  else if n = 0x130 then ['i', Char.ofNat 0x307]
  else
    match lowerRuns.find? (onRun n) with
    | some run => [Char.ofNat (n + run.2.2.2).toNat]
    | none => [c]

/-- Characters with the property Cased. -/
def isCased (c : Char) : Bool :=
  c.isAlpha || inRanges casedRanges c.toNat

/-- Characters with the property Case_Ignorable. -/
def isCaseIgnorable (c : Char) : Bool :=
  if c.toNat < 0x80 then ['\'', '.', ':', '^', Char.ofNat 0x60].contains c
  else inRanges caseIgnorableRanges c.toNat

/-- Whether the first character that is not case-ignorable is cased. -/
def meetsCased (cs : List Char) : Bool :=
  match cs.dropWhile isCaseIgnorable with
  | [] => false
  | c :: _ => isCased c

/-- Whether a sigma ends its word: a cased letter stands before it and none after it. The characters
before it are given in reverse. -/
def endsWord (before after : List Char) : Bool :=
  meetsCased before && !meetsCased after

/-- Lower-cases the characters that follow `before`, which is given in reverse. -/
def lowerAfter (before : List Char) : List Char → List Char
  | [] => []
  | c :: rest =>
    (if c = 'Σ' then [if endsWord before rest then 'ς' else 'σ'] else lowerChar c) ++
      lowerAfter (c :: before) rest

/-- The lower-case form of a text. -/
def lower (s : String) : String :=
  String.ofList (lowerAfter [] s.toList)

/-- The normal form under which names are compared: trimmed, then lower-cased. -/
def normalForm (name : String) : String :=
  lower (trim name)

/-- Whether two names count as the same name. -/
def sameName (a b : String) : Bool :=
  normalForm a == normalForm b

theorem sameName_iff (a b : String) :
    sameName a b = true ↔ normalForm a = normalForm b := by
  simp [sameName]

end Text
end TournamentDesk
