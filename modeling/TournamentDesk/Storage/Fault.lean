import TournamentDesk.Json.Record

/-!
# Storage faults

Why a record could not be read or written. The texts are for the organizer's log: they name files and
say what the system said, and so they are never shown to a client.
-/

namespace TournamentDesk
namespace Storage

/-- Why a record could not be read or written. -/
inductive Fault where
  | read (path cause : String)
  | write (path cause : String)
  | createDirectory (path cause : String)
  | unreadable (fault : Json.Fault)
  | unavailable (reason : String)
deriving DecidableEq, Repr

def Fault.message : Fault → String
  | .read path cause => "Failed to read " ++ path ++ ": " ++ cause
  | .write path cause => "Failed to write " ++ path ++ ": " ++ cause
  | .createDirectory path cause => "Failed to create data directory " ++ path ++ ": " ++ cause
  | .unreadable fault => "Serialization error: " ++ fault.message
  | .unavailable reason => "Storage unavailable: " ++ reason

/-- The path at which a file or a directory gave trouble. -/
def Fault.path? : Fault → Option String
  | .read path _ | .write path _ | .createDirectory path _ => some path
  | _ => none

end Storage
end TournamentDesk
