import TournamentDesk.Storage.Records
import TournamentDesk.Storage.Tree

/-!
# Records in files

Both records are files in a data directory. A record is written to a temporary file beside it, which
then takes its name, so that the record is replaced as a whole or not at all. The data directory is
made when it is missing. After a failure the temporary file is removed.
-/

namespace TournamentDesk
namespace Storage
namespace FileStore

open Registration (Entrant)

def fileName : RecordName → String
  | .tournament => tournamentFile
  | .queue => queueFile

def path (directory : String) (record : RecordName) : Path :=
  Path.ofString directory ++ [fileName record]

/-- The path of the temporary file beside a record. -/
def temporaryPath (directory : String) (record : RecordName) : Path :=
  Path.ofString directory ++ [fileName record ++ temporarySuffix]

def writtenPath (directory : String) (record : RecordName) : String :=
  joinText directory (fileName record)

/-- Reads a record. A file that is not there is a record that does not exist. -/
def read (tree : Node) (directory : String) (record : RecordName) :
    Except Fault (Option ByteArray) :=
  match tree.fetch (path directory record) with
  | .ok octets => .ok (some octets)
  | .error .missing => .ok none
  | .error e => .error (.read (writtenPath directory record) e.message)

/-- How writing a record went, and the tree after it. -/
structure Saved where
  result : Except Fault Unit
  tree : Node

/-- Writes the temporary file and gives it the name of the record. -/
def replace (tree : Node) (directory : String) (record : RecordName) (octets : ByteArray) :
    Node.Attempt :=
  let temporary := temporaryPath directory record
  match tree.store temporary octets with
  | .error e => ⟨.error e, tree⟩
  | .ok tree => tree.attempt (tree.rename temporary (path directory record))

/-- Writes a record. -/
def write (tree : Node) (directory : String) (record : RecordName) (octets : ByteArray) : Saved :=
  match tree.makeAll (Path.ofString directory) with
  | ⟨.error e, tree⟩ => ⟨.error (.createDirectory directory e.message), tree⟩
  | ⟨.ok (), tree⟩ =>
    match replace tree directory record octets with
    | ⟨.ok (), tree⟩ => ⟨.ok (), tree⟩
    | ⟨.error e, tree⟩ =>
      ⟨.error (.write (writtenPath directory record) e.message),
        (tree.attempt (tree.removeFile (temporaryPath directory record))).tree⟩

/-- Reads the entrants of the registration record. -/
def loadQueue (tree : Node) (directory : String) : Except Fault (Option (List Entrant)) :=
  match read tree directory .queue with
  | .error e => .error e
  | .ok record => readEntrants record

/-- Writes the registration record of entrants. -/
def saveQueue (tree : Node) (directory : String) (entrants : List Entrant) : Saved :=
  write tree directory .queue (Registration.entrantsRecord entrants)

end FileStore
end Storage
end TournamentDesk
