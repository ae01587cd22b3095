import TournamentDesk.Decimal.Layout

/-!
# JSON values and their texts

A value to be written, and the two styles in which records are written: compact, with nothing between
the parts, and indented, with each part on a line of its own and two spaces for each level.
-/

namespace TournamentDesk
namespace Json

/-- A JSON value to be written. Members keep their order. -/
inductive Value where
  | null
  | bool (b : Bool)
  | int (i : Int)
  | float (x : Float)
  | string (s : String)
  | array (items : List Value)
  | object (members : List (String × Value))

/-- How the parts of a value are set apart. -/
inductive Style where
  | compact
  | indented
deriving DecidableEq, Repr

/-- What stands before a part at a level. -/
def Style.lineBreak : Style → Nat → List Char
  | .compact, _ => []
  | .indented, level => '\n' :: List.replicate (2 * level) ' '

/-- What stands between the name and the value of a member. -/
def Style.colon : Style → List Char
  | .compact => [':']
  | .indented => [':', ' ']

def hexDigit (n : Nat) : Char :=
  Nat.digitChar (n % 16)

/-- How one character of a string is written: quotation marks, backslashes and the control characters
below U+0020 are escaped, all others stand for themselves. -/
def escapeChar (c : Char) : List Char :=
  if c = '"' then ['\\', '"']
  else if c = '\\' then ['\\', '\\']
  else if c = Char.ofNat 0x8 then ['\\', 'b']
  else if c = Char.ofNat 0xC then ['\\', 'f']
  else if c = '\n' then ['\\', 'n']
  else if c = '\r' then ['\\', 'r']
  else if c = '\t' then ['\\', 't']
  else if c.toNat < 0x20 then ['\\', 'u', '0', '0', hexDigit (c.toNat / 16), hexDigit c.toNat]
  else [c]

/-- The text of a string, between quotation marks. -/
def stringText (s : String) : List Char :=
  '"' :: s.toList.flatMap escapeChar ++ ['"']

/-- The text of a double. An infinity or a NaN is written as null. -/
def floatText (x : Float) : List Char :=
  (Decimal.text? x).getD ['n', 'u', 'l', 'l']

mutual

/-- The text of a value that stands at a level. -/
def Value.text (style : Style) (level : Nat) : Value → List Char
  | .null => ['n', 'u', 'l', 'l']
  | .bool true => ['t', 'r', 'u', 'e']
  | .bool false => ['f', 'a', 'l', 's', 'e']
  | .int i => Decimal.intText i
  | .float x => floatText x
  | .string s => stringText s
  | .array [] => ['[', ']']
  | .array (v :: rest) =>
    '[' :: style.lineBreak (level + 1) ++ v.text style (level + 1) ++
      itemsText style (level + 1) rest ++ style.lineBreak level ++ [']']
  | .object [] => ['{', '}']
  | .object ((name, v) :: rest) =>
    '{' :: style.lineBreak (level + 1) ++ stringText name ++ style.colon ++
      v.text style (level + 1) ++ membersText style (level + 1) rest ++ style.lineBreak level ++ ['}']

/-- The text of the items behind the first. -/
def itemsText (style : Style) (level : Nat) : List Value → List Char
  | [] => []
  | v :: rest => ',' :: style.lineBreak level ++ v.text style level ++ itemsText style level rest

/-- The text of the members behind the first. -/
def membersText (style : Style) (level : Nat) : List (String × Value) → List Char
  | [] => []
  | (name, v) :: rest =>
    ',' :: style.lineBreak level ++ stringText name ++ style.colon ++ v.text style level ++
      membersText style level rest

end

/-- The whole text of a value. -/
def Value.render (style : Style) (v : Value) : String :=
  String.ofList (v.text style 0)

end Json
end TournamentDesk
