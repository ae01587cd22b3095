import TournamentDesk.Text.Scan

/-!
# Media types

A media type is written as a main type, a slash and a subtype, and parameters may follow, each behind
a semicolon. The subtype may end in a suffix behind a plus sign. Types are compared without regard to
case.
-/

namespace TournamentDesk
namespace Http

def isTokenChar (c : Char) : Bool :=
  c.isAlphanum || "!#$%&'*+-.^_`|~".toList.contains c

/-- Characters that may stand between quotation marks. -/
def isQuotableChar (c : Char) : Bool :=
  0x20 ≤ c.toNat && c.toNat ≠ 0x7F

/-- A media type. The parameters are not kept. -/
structure MediaType where
  main : List Char
  subtype : List Char
  /-- The suffix, if there is one. -/
  suffix : Option (List Char)
deriving DecidableEq, Repr

namespace MediaType

/-! ## Parameters -/

/-- A place in a list of parameters. -/
inductive Place where
  /-- In front of a parameter. -/
  | front
  /-- In a name. -/
  | name
  /-- Behind the equals sign. -/
  | value
  /-- In a value that is a token. -/
  | token
  /-- Behind the first quotation mark. -/
  | quote
  /-- In a quoted value, behind its first character. -/
  | quoted
  /-- Behind a quoted value. -/
  | behind
deriving DecidableEq, Repr

/-- The place behind a character. The first character between quotation marks may be a quotation mark
itself. -/
def Place.next (c : Char) : Place → Option Place
  | .front => if c = ' ' then some .front else if isTokenChar c then some .name else none
  | .name => if c = '=' then some .value else if isTokenChar c then some .name else none
  | .value => if c = '"' then some .quote else if isTokenChar c then some .token else none
  | .token => if c = ';' then some .front else if isTokenChar c then some .token else none
  | .quote => if isQuotableChar c then some .quoted else none
  | .quoted => if c = '"' then some .behind else if isQuotableChar c then some .quoted else none
  | .behind => if c = ';' then some .front else if c = ' ' then some .behind else none

def Place.mayEnd : Place → Bool
  | .front | .value | .token | .behind => true
  | .name | .quote | .quoted => false

/-- Whether a text goes on as a list of parameters from a place. -/
def areParameters (p : Place) : List Char → Bool
  | [] => p.mayEnd
  | c :: s => (p.next c).any fun p => areParameters p s

/-! ## Reading -/

/-- A media type with a written subtype: the last plus sign in it that is not its first character
begins the suffix. -/
def ofParts (main sub : List Char) : MediaType :=
  if (sub.drop 1).contains '+' then
    let suffix := (sub.reverse.takeWhile fun c => c ≠ '+').reverse
    ⟨main, sub.take (sub.length - suffix.length - 1), some suffix⟩
  else ⟨main, sub, none⟩

/-- Reads a media type. -/
def parse? (s : List Char) : Option MediaType :=
  let main := s.takeWhile isTokenChar
  match s.dropWhile isTokenChar with
  | '/' :: s =>
    let sub := s.takeWhile isTokenChar
    if main.isEmpty then none
    else
      match s.dropWhile isTokenChar with
      | [] => some (ofParts main sub)
      | ';' :: s =>
        if !sub.isEmpty && areParameters .front s then some (ofParts main sub) else none
      | _ => none
  | _ => none

/-- Whether a part of a media type is a word, which is given in lower case. -/
def isWord (word : String) (part : List Char) : Bool :=
  part.map Char.toLower = word.toList

/-- Whether texts of a media type are JSON. -/
def isJson (m : MediaType) : Bool :=
  isWord "application" m.main && (isWord "json" m.subtype || m.suffix.any (isWord "json"))

end MediaType

end Http
end TournamentDesk
