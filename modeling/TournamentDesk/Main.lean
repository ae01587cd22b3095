import TournamentDesk.CommandLine
import TournamentDesk.Storage.FileStore

/-!
# The program

Reads the arguments, the environment and the records, and goes as far as being ready to answer.
-/

namespace TournamentDesk
namespace Program

open CommandLine (Failure helpText launch plan prepare)
open Settings (Assignment Environment Part Variable readAssignments)
open Storage (Fault Path RecordName)

/-- The octets of a file, if it can be read. -/
def readIfPossible (path : String) : IO (Option ByteArray) := do
  try
    return some (← IO.FS.readBinFile path)
  catch _ =>
    return none

/-- The assignments of the nearest file for them, in the working directory or above it. -/
def findAssignments : IO (List Assignment) := do
  let directory ← IO.currentDir
  for above in (Path.ofString directory.toString).upward do
    if let some octets ← readIfPossible ("/" ++ (above ++ [".env"]).text) then
      return readAssignments octets
  return []

def references (value : List Part) : List String :=
  value.filterMap fun part =>
    match part with
    | .reference name => some (String.ofList name)
    | .char _ => none

/-- The environment of the program, as far as it can be asked for, with a file of assignments. -/
def findEnvironment : IO (Except Failure Environment) := do
  let assignments ← findAssignments
  let names := Variable.all.map Variable.name ++
    assignments.flatMap fun a => a.name :: references a.value
  let mut env := Environment.empty
  for name in names do
    if let some text ← IO.getEnv name then
      env := env.set name text
  return prepare env assignments

/-- Reads a record from its file. -/
def readRecordFile (directory : String) (record : RecordName) :
    IO (Except Fault (Option ByteArray)) := do
  let path := Storage.FileStore.writtenPath directory record
  try
    return .ok (some (← IO.FS.readBinFile path))
  catch e =>
    match e with
    | .noFileOrDirectory .. => return .ok none
    | e => return .error (.read path (toString e))

def fail (f : Failure) : IO UInt32 := do
  IO.eprintln f.report
  return UInt32.ofNat f.code

/-- Starts the program, and gives its exit code. -/
def run (arguments : List String) : IO UInt32 := do
  match (← findEnvironment).bind (plan arguments) with
  | .error f => fail f
  | .ok .help =>
    IO.print helpText
    return 0
  | .ok (.serve settings) =>
    let tournament ← readRecordFile settings.directory .tournament
    let queue ← readRecordFile settings.directory .queue
    let read : RecordName → Except Fault (Option ByteArray) := fun record =>
      match record with
      | .tournament => tournament
      | .queue => queue
    match launch settings read fun _ => true with
    | .error f => fail f
    | .ok _ =>
      IO.println ("Ready at http://" ++ settings.address.render)
      return 0

end Program
end TournamentDesk

def main (arguments : List String) : IO UInt32 :=
  TournamentDesk.Program.run arguments
