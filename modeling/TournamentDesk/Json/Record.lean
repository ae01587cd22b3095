import TournamentDesk.Json.Reading
import TournamentDesk.Json.Value

/-!
# Taking values out of a reading

A reader takes a value of one type out of a reading, or reports the first problem in the order of the
text: `malformed` where the text stops being JSON, `mismatch` where it is JSON of the wrong shape.

A record is read from an object, whose members may come in any order and may include unknown ones, or
from an array that holds the fields in their declared order. What a missing field means is said field
by field, and apart for the two forms.
-/

namespace TournamentDesk
namespace Json

/-- The first problem met while reading. -/
inductive Fault where
  /-- The text is not JSON. -/
  | malformed
  /-- The text is JSON, but not of the expected shape. -/
  | mismatch
deriving DecidableEq, Repr

def Fault.message : Fault → String
  | .malformed => "the text is not JSON"
  | .mismatch => "the text has the wrong shape"

/-- Takes a value of one type out of a reading. -/
abbrev Reader (α : Type) := Reading → Except Fault α

/-- The fault of a reading that is not of the expected kind. -/
def Reading.fault : Reading → Fault
  | .broken => .malformed
  | .string none => .malformed
  | .number .excessive => .malformed
  | _ => .mismatch

/-! ## Single values -/

/-- A text. -/
def readText : Reader String
  | .string (some s) => .ok s
  | r => .error r.fault

/-- A truth value. -/
def readBool : Reader Bool
  | .bool b => .ok b
  | r => .error r.fault

/-- A whole number between two bounds, both of them allowed. -/
def readInt (low high : Int) : Reader Int
  | .number (.int i) => if low ≤ i ∧ i ≤ high then .ok i else .error .mismatch
  | r => .error r.fault

/-- A whole number from zero to a bound that is allowed. -/
def readNat (high : Nat) : Reader Nat := fun r =>
  (readInt 0 high r).map Int.toNat

/-- A double. Whole numbers are taken too. -/
def readFloat : Reader Float
  | .number (.int i) => .ok (Float.ofInt i)
  | .number (.float x) => .ok x
  | r => .error r.fault

/-- One of a list of words, plain or as the only member of an object, with the value null. -/
def readWord {α : Type} (words : List (String × α)) : Reader α
  | .string (some s) => (words.lookup s).elim (.error .mismatch) .ok
  | .object [(some s, .null)] => (words.lookup s).elim (.error .mismatch) .ok
  | r => .error (if r.isWhole then r.fault else .malformed)

/-- A value, or null for none. -/
def readOption {α : Type} (read : Reader α) : Reader (Option α)
  | .null => .ok none
  | r => (read r).map some

/-- The items of a list, from first to last. -/
def readItems {α : Type} (read : Reader α) : List Reading → Except Fault (List α)
  | [] => .ok []
  | r :: rest =>
    match read r with
    | .error e => .error e
    | .ok a => (readItems read rest).map (a :: ·)

def readList {α : Type} (read : Reader α) : Reader (List α)
  | .array items => readItems read items
  | r => .error r.fault

/-! ## Records -/

/-- A field of a record. -/
structure Field where
  Carrier : Type
  name : String
  read : Reader Carrier
  /-- The value when an object has no such member, if it may be left out there. -/
  absent : Option Carrier
  /-- The value when an array ends before it, if it may be left out there. -/
  cutOff : Option Carrier

/-- A field that must be there. -/
def Field.required {α : Type} (name : String) (read : Reader α) : Field :=
  ⟨α, name, read, none, none⟩

/-- A field that may be left out, and the value it then has. -/
def Field.optional {α : Type} (name : String) (read : Reader α) (value : α) : Field :=
  ⟨α, name, read, some value, some value⟩

/-- A field that may be left out of an object only, and the value it then has. -/
def Field.optionalMember {α : Type} (name : String) (read : Reader α) (value : α) : Field :=
  ⟨α, name, read, some value, none⟩

/-- The values of a record, one for each field. -/
def Values : List Field → Type
  | [] => Unit
  | f :: fs => f.Carrier × Values fs

/-- The values of a record as far as they have been met. -/
def Draft : List Field → Type
  | [] => Unit
  | f :: fs => Option f.Carrier × Draft fs

/-- The draft in which nothing has been met. -/
def Draft.blank : (fs : List Field) → Draft fs
  | [] => ()
  | _ :: fs => (none, Draft.blank fs)

/-- Takes in one member: a known name must be met for the first time and its value must be readable,
an unknown one must only be JSON. -/
def Draft.take (name : String) (r : Reading) : (fs : List Field) → Draft fs → Except Fault (Draft fs)
  | [], d => if r.isWhole then .ok d else .error .malformed
  | f :: fs, (v, d) =>
    if f.name = name then
      match v with
      | some _ => .error .mismatch
      | none => (f.read r).map fun a => (some a, d)
    else (Draft.take name r fs d).map fun d => (v, d)

/-- Takes in the members of an object in their order. -/
def Draft.takeAll (fs : List Field) :
    List (Option String × Reading) → Draft fs → Except Fault (Draft fs)
  | [], d => .ok d
  | (none, _) :: _, _ => .error .malformed
  | (some name, r) :: rest, d =>
    match d.take name r fs with
    | .error e => .error e
    | .ok d => takeAll fs rest d

/-- The values of a draft, with what may be left out filled in. -/
def Draft.finish : (fs : List Field) → Draft fs → Except Fault (Values fs)
  | [], _ => .ok ()
  | f :: fs, (v, d) =>
    match v.or f.absent with
    | none => .error .mismatch
    | some a => (Draft.finish fs d).map fun vs => (a, vs)

/-- The values of a record given in declared order. -/
def readInOrder : (fs : List Field) → List Reading → Except Fault (Values fs)
  | [], [] => .ok ()
  | [], _ :: _ => .error .malformed
  | f :: fs, [] =>
    match f.cutOff with
    | none => .error .mismatch
    | some a => (readInOrder fs []).map fun vs => (a, vs)
  | f :: fs, r :: rest =>
    match f.read r with
    | .error e => .error e
    | .ok a => (readInOrder fs rest).map fun vs => (a, vs)

/-- The values of a record. -/
def readValues (fs : List Field) : Reader (Values fs)
  | .object members =>
    match (Draft.blank fs).takeAll fs members with
    | .error e => .error e
    | .ok d => d.finish fs
  | .array items => readInOrder fs items
  | r => .error r.fault

/-- A record, put together from its values. -/
def readRecord {α : Type} (fs : List Field) (build : Values fs → α) : Reader α := fun r =>
  (readValues fs r).map build

/-! ## Whole texts -/

/-- Takes a value out of octets, which must hold nothing behind it. -/
def readBytes {α : Type} (read : Reader α) (b : ByteArray) : Except Fault α :=
  let d := Document.ofBytes b
  match read d.body with
  | .error e => .error e
  | .ok a => if d.complete then .ok a else .error .malformed

end Json
end TournamentDesk
