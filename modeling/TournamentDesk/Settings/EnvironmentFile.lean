import TournamentDesk.Text.Blank
import TournamentDesk.Text.Letters
import TournamentDesk.Text.Symbols

/-!
# Files of assignments

A file that gives values to names, one assignment on a line: a name, an equals sign and a value. The
word `export` may stand in front, and comments begin with a hash.

In a value, single quotation marks keep everything as it stands. Double ones keep blanks. Outside of
single ones a backslash takes the special meaning from the next character, and a dollar sign begins
the name of a variable, which may stand in braces. A value ends at the first blank outside of
quotation marks, and only a comment may follow. A quoted value may go on over several lines.

A file is read up to the first line that is damaged.
-/

namespace TournamentDesk
namespace Settings

open Text (Symbol isBlankChar skipBlanks)

/-- A part of a value. -/
inductive Part where
  | char (c : Char)
  /-- What a variable stands for. -/
  | reference (name : List Char)
deriving DecidableEq, Repr

/-- An assignment. -/
structure Assignment where
  name : String
  value : List Part
deriving DecidableEq, Repr

/-! ## Values -/

/-- A place in a value. -/
inductive ValuePlace where
  /-- Nothing special. -/
  | plain
  /-- Behind a backslash. -/
  | escaped
  /-- Between single quotation marks. -/
  | single
  /-- In the name of a variable. -/
  | name (name : List Char)
  /-- In the name of a variable in braces. -/
  | braced (name : List Char)
  /-- Behind the value. -/
  | behind
deriving DecidableEq, Repr

/-- A value as far as it has been read. -/
structure ValueState where
  place : ValuePlace
  /-- Whether the place lies between double quotation marks. -/
  double : Bool
  /-- The parts so far, the last one first. -/
  parts : List Part

namespace ValueState

/-- In front of a value. -/
def start : ValueState :=
  ⟨.plain, false, []⟩

/-- Goes on at another place. -/
def goto (s : ValueState) (place : ValuePlace) : ValueState :=
  { s with place }

/-- Takes in a part. -/
def push (s : ValueState) (p : Part) : ValueState :=
  { s with parts := p :: s.parts }

/-- Takes in a character for itself. -/
def keep (s : ValueState) (c : Char) : ValueState :=
  s.push (.char c)

/-- What a backslash and a character stand for. -/
def unescape? (c : Char) : Option Char :=
  if c = 'n' then some '\n'
  else if ['\\', '\'', '"', '$', ' '].contains c then some c
  else none

/-- Goes over a character at a place where nothing is special. -/
def nextPlain (s : ValueState) (c : Char) : ValueState :=
  if c = '$' then s.goto (.name [])
  else if c = '\\' then s.goto .escaped
  else if c = '"' then { s with double := !s.double }
  else if s.double then s.keep c
  else if c = '\'' then s.goto .single
  else if c = ' ' || c = '\t' then s.goto .behind
  else s.keep c

/-- Goes over a character in the name of a variable. The character that ends a name stands for itself,
unless it begins the next name. -/
def nextInName (s : ValueState) (name : List Char) (c : Char) : ValueState :=
  if Text.isAlphanumeric c then s.goto (.name (name ++ [c]))
  else if c = '\x7b' && name.isEmpty then s.goto (.braced [])
  else
    let s := s.push (.reference name)
    if c = '$' then s.goto (.name []) else (s.goto .plain).keep c

/-- Goes over a character, if it may stand there. -/
def next (s : ValueState) (c : Char) : Option ValueState :=
  match s.place with
  | .plain => some (s.nextPlain c)
  | .escaped => (unescape? c).map fun d => (s.goto .plain).keep d
  | .single => some (if c = '\'' then s.goto .plain else s.keep c)
  | .name name => some (s.nextInName name c)
  | .braced name =>
    some (if c = '\x7d' then (s.push (.reference name)).goto .plain
      else s.goto (.braced (name ++ [c])))
  | .behind => if c = ' ' || c = '\t' then some s else none

/-- The value, if it may end here. -/
def finish (s : ValueState) : Option (List Part) :=
  match s.place with
  | .single | .braced _ => none
  | .name name => if s.double then none else some (s.push (.reference name)).parts.reverse
  | _ => if s.double then none else some s.parts.reverse

/-- The value that a text goes on with. -/
def read (s : ValueState) : List Char → Option (List Part)
  | [] => s.finish
  | c :: rest =>
    if s.place = .behind && c = '#' then s.finish
    else (s.next c).bind fun s => s.read rest

end ValueState

/-! ## Assignments -/

def beginsName (c : Char) : Bool :=
  c.isAlpha || c = '_'

def isNameChar (c : Char) : Bool :=
  c.isAlphanum || c = '_' || c = '.'

/-- A name, and what follows behind blanks. -/
def splitName (s : List Char) : Option (List Char × List Char) :=
  if s.head?.any beginsName then
    some (s.takeWhile isNameChar, skipBlanks (s.dropWhile isNameChar))
  else none

/-- A name, and what follows behind the equals sign. The word `export` in front is passed over, unless
it is the name itself. -/
def splitAssignment (s : List Char) : Option (List Char × List Char) := do
  match ← splitName s with
  | (name, '=' :: s) => return (name, s)
  | (name, s) =>
    if name = "export".toList then
      match ← splitName s with
      | (name, '=' :: s) => return (name, s)
      | _ => none
    else none

/-- Whether a text holds nothing but a comment, if that. -/
def isVoid (s : List Char) : Bool :=
  s.isEmpty || s.head? = some '#'

/-- The assignment that a line holds, or none if it holds nothing, unless it is damaged. -/
def readLine (line : List Char) : Option (Option Assignment) :=
  let s := Text.trimList line
  if isVoid s then some none
  else do
    let (name, s) ← splitAssignment s
    let s := skipBlanks s
    let value ← if isVoid s then some [] else ValueState.start.read s
    return some ⟨String.ofList name, value⟩

/-! ## Lines -/

/-- How a line goes on at a place. -/
inductive LinePlace where
  /-- Nothing special. -/
  | plain
  /-- Behind a blank. -/
  | blank
  /-- Behind a backslash. -/
  | escaped
  /-- Between single quotation marks. -/
  | single
  /-- Behind a backslash between single quotation marks. -/
  | singleEscaped
  /-- Between double quotation marks. -/
  | double
  /-- Behind a backslash between double quotation marks. -/
  | doubleEscaped
deriving DecidableEq, Repr

namespace LinePlace

/-- The place behind a character outside of quotation marks. -/
def behindMark (c : Char) : LinePlace :=
  if c = '\\' then .escaped
  else if c = '"' then .double
  else if c = '\'' then .single
  else .plain

/-- The place behind a character. -/
def next (c : Char) : LinePlace → LinePlace
  | plain => if isBlankChar c && c ≠ '\n' && c ≠ '\r' then .blank else behindMark c
  | blank => behindMark c
  | escaped => .plain
  | single => if c = '\\' then .singleEscaped else if c = '\'' then .plain else .single
  | singleEscaped => .single
  | double => if c = '\\' then .doubleEscaped else if c = '"' then .plain else .double
  | doubleEscaped => .double

end LinePlace

/-- The characters of a line in front of a comment, and the place behind the line if there is none. A
comment begins with a hash behind a blank that follows something. -/
def cutComment : LinePlace → List Char → List Char × Option LinePlace
  | p, [] => ([], some p)
  | p, c :: s =>
    if p = .blank && c = '#' then ([], none)
    else
      let (front, place) := cutComment (p.next c) s
      (c :: front, place)

/-- A text without the line break that it ends in. -/
def dropLineBreak (s : List Char) : List Char :=
  match s.reverse with
  | '\n' :: '\r' :: r => r.reverse
  | '\n' :: r => r.reverse
  | _ => s

/-- Cuts symbols behind each line break. -/
def physicalLines : List Symbol → List (List Symbol)
  | [] => []
  | s :: rest =>
    match s, physicalLines rest with
    | some '\n', lines => [s] :: lines
    | _, [] => [[s]]
    | _, line :: lines => (s :: line) :: lines

def lineText? (line : List Symbol) : Option (List Char) :=
  line.mapM id

/-- Puts physical lines together to lines, given what has been read of the first one and the place
behind it. A line that is damaged or not finished is `none`, and is the last one. -/
def joinLines (begun : List Char) (p : LinePlace) : List (List Symbol) → List (Option (List Char))
  | [] => if p = .plain then [] else [none]
  | line :: rest =>
    match lineText? line with
    | none => [none]
    | some cs =>
      let whole := begun ++ cs
      if (skipBlanks whole).head? = some '#' then some [] :: joinLines [] .plain rest
      else
        match cutComment p cs with
        | (front, none) => some (begun ++ front) :: joinLines [] .plain rest
        | (_, some .plain) => some (dropLineBreak whole) :: joinLines [] .plain rest
        | (_, some p) => joinLines whole p rest

/-- The assignments of lines, up to the first damaged one. -/
def readLines : List (Option (List Char)) → List Assignment
  | [] => []
  | none :: _ => []
  | some line :: rest =>
    match readLine line with
    | none => []
    | some a => a.toList ++ readLines rest

/-- The symbols behind a byte order mark, if there is one. -/
def skipByteOrderMark : List Symbol → List Symbol
  | some c :: rest => if c.toNat = 0xFEFF then rest else some c :: rest
  | s => s

/-- The assignments of a file, up to the first damaged line. -/
def readAssignments (octets : ByteArray) : List Assignment :=
  readLines (joinLines [] .plain (physicalLines (skipByteOrderMark (Text.symbols octets))))

end Settings
end TournamentDesk
