import TournamentDesk.Settings.EnvironmentFile

/-!
# Environments

An environment gives octets to some names. Octets that are no text count as if the name had none. A
file of assignments adds to an environment, from first to last, and takes nothing away from it. No
environment holds a text with the character U+0000 in it.
-/

namespace TournamentDesk
namespace Settings

/-- What names stand for. -/
abbrev Environment := String → Option ByteArray

namespace Environment

/-- The environment in which no name stands for anything. -/
def empty : Environment := fun _ => none

/-- The text that a name stands for. -/
def text? (env : Environment) (name : String) : Option String :=
  (env name).bind String.fromUTF8?

/-- What a part of a value stands for. -/
def partText (env : Environment) : Part → List Char
  | .char c => [c]
  | .reference name => ((env.text? (String.ofList name)).getD "").toList

/-- What a value stands for. -/
def valueText (env : Environment) (value : List Part) : String :=
  String.ofList (value.flatMap env.partText)

/-- The environment with another text for a name. -/
def set (env : Environment) (name text : String) : Environment := fun n =>
  if n = name then some text.toUTF8 else env n

/-- Whether an environment can hold a text. The character U+0000 would end it. -/
def canHold (text : String) : Bool :=
  !text.toList.contains (Char.ofNat 0)

/-- The environment after an assignment, if it can be made. A name that has a text keeps it. -/
def assign (env : Environment) (a : Assignment) : Option Environment :=
  if (env.text? a.name).isSome then some env
  else
    let text := env.valueText a.value
    if canHold text then some (env.set a.name text) else none

/-- The environment after assignments, or the name of the first one that cannot be made. -/
def load (env : Environment) : List Assignment → Except String Environment
  | [] => .ok env
  | a :: rest =>
    match env.assign a with
    | some env => env.load rest
    | none => .error a.name

end Environment

end Settings
end TournamentDesk
