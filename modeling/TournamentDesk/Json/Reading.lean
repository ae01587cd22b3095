import TournamentDesk.Json.Token

/-!
# Readings of JSON texts

A text that may be damaged is read from left to right as far as it goes. The reading is a tree whose
last leaf says `broken` where the text stops being JSON, so that one who looks for something in it
meets the first problem in the order of the text: a part of the wrong kind in front of the damage is
found before the damage is.

The tree is built by a machine that takes one token at a time. It keeps the containers that are still
open, innermost first.
-/

namespace TournamentDesk
namespace Json

open Decimal (Numeral)

/-- What a text reads as. -/
inductive Reading where
  | null
  | bool (b : Bool)
  | number (n : Numeral)
  /-- A string, or `none` when what it holds is no text. -/
  | string (s : Option String)
  | array (items : List Reading)
  | object (members : List (Option String × Reading))
  /-- The place where the text stops being JSON. -/
  | broken

mutual

/-- Whether no place of a reading is broken. -/
def Reading.isWhole : Reading → Bool
  | .broken => false
  | .array items => itemsWhole items
  | .object members => membersWhole members
  | _ => true

def itemsWhole : List Reading → Bool
  | [] => true
  | r :: rest => r.isWhole && itemsWhole rest

def membersWhole : List (Option String × Reading) → Bool
  | [] => true
  | (_, r) :: rest => r.isWhole && membersWhole rest

end

/-- A container that is still open. What it holds so far is kept in reverse. -/
inductive Frame where
  /-- An array, waiting for an item. -/
  | array (items : List Reading)
  /-- An object, waiting for the value of a member. -/
  | object (members : List (Option String × Reading)) (name : Option String)

/-- The container with its last part filled in. -/
def Frame.fill : Frame → Reading → Reading
  | .array items, r => .array (r :: items).reverse
  | .object members name, r => .object ((name, r) :: members).reverse

/-- What the next token may be. -/
inductive Await where
  /-- A value. -/
  | value
  /-- A value or the end of the array just opened. -/
  | firstItem
  /-- A name or the end of the object just opened. -/
  | firstName
  /-- The name of a further member, behind those given in reverse. -/
  | name (members : List (Option String × Reading))
  /-- The colon behind a name. -/
  | colon (members : List (Option String × Reading)) (name : Option String)
  /-- A comma or an end, behind the items given in reverse. -/
  | nextItem (items : List Reading)
  /-- A comma or an end, behind the members given in reverse. -/
  | nextMember (members : List (Option String × Reading))
  /-- Nothing: the whole text has been read. -/
  | nothing (r : Reading)

/-- Where the machine stands between two tokens. -/
structure Machine where
  /-- The containers that are still open, innermost first. -/
  frames : List Frame
  /-- What the next token may be. -/
  await : Await

def Machine.start : Machine :=
  ⟨[], .value⟩

/-- Hands a complete value to the innermost open container. -/
def deliver (frames : List Frame) (r : Reading) : Machine :=
  match frames with
  | [] => ⟨[], .nothing r⟩
  | .array items :: frames => ⟨frames, .nextItem (r :: items)⟩
  | .object members name :: frames => ⟨frames, .nextMember ((name, r) :: members)⟩

/-- Begins the value that a token starts, if it starts one. -/
def begin? (frames : List Frame) (t : Token) : Option Machine :=
  match t with
  | .null => some (deliver frames .null)
  | .bool b => some (deliver frames (.bool b))
  | .number n => some (deliver frames (.number n))
  | .string s => some (deliver frames (.string s))
  | .arrayStart => some ⟨frames, .firstItem⟩
  | .objectStart => some ⟨frames, .firstName⟩
  | _ => none

/-- One token, or `none` when it may not stand there. -/
def Machine.step? (m : Machine) (t : Token) : Option Machine :=
  match m.await, t with
  | .value, t => begin? m.frames t
  | .firstItem, .arrayEnd => some (deliver m.frames (.array []))
  | .firstItem, t => begin? (.array [] :: m.frames) t
  | .firstName, .objectEnd => some (deliver m.frames (.object []))
  | .firstName, .string s => some ⟨m.frames, .colon [] s⟩
  | .name members, .string s => some ⟨m.frames, .colon members s⟩
  | .colon members name, .colon => some ⟨.object members name :: m.frames, .value⟩
  | .nextItem items, .comma => some ⟨.array items :: m.frames, .value⟩
  | .nextItem items, .arrayEnd => some (deliver m.frames (.array items.reverse))
  | .nextMember members, .comma => some ⟨m.frames, .name members⟩
  | .nextMember members, .objectEnd => some (deliver m.frames (.object members.reverse))
  | _, _ => none

/-- What a text has been read as so far, when it breaks off here. -/
def Machine.breakOff (m : Machine) : Reading :=
  let innermost : Reading :=
    match m.await with
    | .value => .broken
    | .firstItem => .array [.broken]
    | .firstName => .object [(none, .broken)]
    | .name members => .object ((none, .broken) :: members).reverse
    | .colon members name => .object ((name, .broken) :: members).reverse
    | .nextItem items => .array (.broken :: items).reverse
    | .nextMember members => .object ((none, .broken) :: members).reverse
    | .nothing r => r
  m.frames.foldl (fun r f => f.fill r) innermost

/-- A reading, and whether nothing but space stands behind it. -/
structure Document where
  /-- What the text reads as. -/
  body : Reading
  /-- Whether the text ends where the reading does. -/
  complete : Bool

/-- Runs the machine over tokens. -/
def Machine.run (m : Machine) : List Token → Document
  | [] =>
    match m.await with
    | .nothing r => ⟨r, true⟩
    | _ => ⟨m.breakOff, false⟩
  | t :: rest =>
    match m.step? t with
    | some m => m.run rest
    | none => ⟨m.breakOff, false⟩

/-- What octets read as. -/
def Document.ofBytes (b : ByteArray) : Document :=
  Machine.start.run (tokens (Text.symbols b))

end Json
end TournamentDesk
