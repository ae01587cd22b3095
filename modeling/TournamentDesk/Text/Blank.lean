/-!
# Blank characters and trimming

The blank characters are those with the Unicode property White_Space. Names are trimmed of them at
both ends, and a name is blank when nothing is left.

* `isBlank_iff_trim`: a text is blank exactly when trimming leaves nothing of it.
-/

namespace TournamentDesk
namespace Text

/-- Characters with the Unicode property White_Space. -/
def isBlankChar (c : Char) : Bool :=
  let n := c.toNat
  (0x9 ≤ n && n ≤ 0xD) || n == 0x20 || n == 0x85 || n == 0xA0 || n == 0x1680 ||
    (0x2000 ≤ n && n ≤ 0x200A) || n == 0x2028 || n == 0x2029 || n == 0x202F || n == 0x205F ||
    n == 0x3000

/-- The characters from the first to the last one that is not blank. -/
def trimList (cs : List Char) : List Char :=
  ((cs.dropWhile isBlankChar).reverse.dropWhile isBlankChar).reverse

/-- A text without the blank characters at its two ends. -/
def trim (s : String) : String :=
  String.ofList (trimList s.toList)

/-- A text with no character but blank ones. -/
def isBlank (s : String) : Bool :=
  s.toList.all isBlankChar

/-- A text without the blank characters it starts with. -/
def skipBlanks (cs : List Char) : List Char :=
  cs.dropWhile isBlankChar

private theorem dropWhile_eq_nil_iff_all (cs : List Char) :
    cs.dropWhile isBlankChar = [] ↔ cs.all isBlankChar = true := by
  induction cs with
  | nil => simp
  | cons c cs ih => by_cases h : isBlankChar c <;> simp [h, ih]

/-- What is left after the leading blanks, if anything, starts with no blank. -/
private theorem dropWhile_eq_nil_of_all (cs : List Char)
    (h : (cs.dropWhile isBlankChar).all isBlankChar = true) :
    cs.dropWhile isBlankChar = [] := by
  induction cs with
  | nil => rfl
  | cons c cs ih => by_cases hc : isBlankChar c <;> simp_all

theorem trimList_eq_nil_iff (cs : List Char) :
    trimList cs = [] ↔ cs.all isBlankChar = true := by
  unfold trimList
  rw [List.reverse_eq_nil_iff, dropWhile_eq_nil_iff_all, List.all_reverse]
  constructor
  · intro h
    exact (dropWhile_eq_nil_iff_all cs).1 (dropWhile_eq_nil_of_all cs h)
  · intro h
    rw [(dropWhile_eq_nil_iff_all cs).2 h]
    rfl

theorem isBlank_iff_trim (s : String) : isBlank s = true ↔ trim s = "" := by
  have hof : trim s = "" ↔ trimList s.toList = [] := by
    constructor
    · intro h
      have := congrArg String.toList h
      simpa [trim] using this
    · intro h
      simp [trim, h]
  rw [hof, trimList_eq_nil_iff]
  rfl

end Text
end TournamentDesk
