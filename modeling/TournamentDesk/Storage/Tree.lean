import TournamentDesk.Storage.Path

/-!
# Directory trees

A directory tree of files and directories, without links, and the operations of a file system on it.
A path is followed from the root of the tree; each operation names what is wrong when it fails, and
leaves the tree as it was then.
-/

namespace TournamentDesk
namespace Storage

/-- A file or a directory. -/
inductive Node where
  | file (octets : ByteArray)
  | directory (entries : List (String × Node))

/-- Why an operation on a tree fails. -/
inductive Obstacle where
  /-- Nothing is there. -/
  | missing
  /-- Something is there already. -/
  | occupied
  /-- A part of the path on the way is a file. -/
  | notDirectory
  /-- A directory is where a file should be. -/
  | isDirectory
  /-- A directory cannot be removed by a path that does not name it. -/
  | unnamed
  /-- A name or the whole path has too many octets. -/
  | tooLong
  /-- The path has a character that no path has. -/
  | cut
deriving DecidableEq, Repr

def Obstacle.message : Obstacle → String
  | .missing => "No such file or directory"
  | .occupied => "File exists"
  | .notDirectory => "Not a directory"
  | .isDirectory => "Is a directory"
  | .unnamed => "Invalid argument"
  | .tooLong => "File name too long"
  | .cut => "file name contained an unexpected NUL byte"

/-- The names that lead from the root of a tree to a place in it. -/
abbrev Place := List String

namespace Node

def empty : Node :=
  .directory []

def isDirectory : Node → Bool
  | .directory _ => true
  | .file _ => false

/-- The entry of a directory with a name. -/
def entry? (name : String) : Node → Option Node
  | .directory entries => entries.lookup name
  | .file _ => none

/-- The entries with the one of a name replaced, added or dropped. -/
def setEntry (name : String) (n : Option Node) (entries : List (String × Node)) :
    List (String × Node) :=
  (entries.filter fun e => e.1 ≠ name) ++ (n.map fun n => (name, n)).toList

/-- What stands at a place. -/
def get? (n : Node) : Place → Option Node
  | [] => some n
  | name :: rest => (n.entry? name).bind fun child => child.get? rest

/-- The tree with what stands at a place replaced, added or dropped. A place whose way does not exist
is left alone, and the root cannot be dropped. -/
def set (n : Node) : Place → Option Node → Node
  | [], new => new.getD n
  | [name], new =>
    match n with
    | .directory entries => .directory (setEntry name new entries)
    | .file octets => .file octets
  | name :: rest, new =>
    match n with
    | .directory entries =>
      match entries.lookup name with
      | some child => .directory (setEntry name (some (child.set rest new)) entries)
      | none => .directory entries
    | .file octets => .file octets

/-! ## Following paths -/

/-- Follows a path from a place where something stands, to the place where it leads. -/
def follow (root : Node) (place : Place) : Path → Except Obstacle Place
  | [] => .ok place
  | part :: rest =>
    if (root.get? place).any isDirectory then
      if part = "." then root.follow place rest
      else if part = ".." then root.follow place.dropLast rest
      else if isTooLong part then .error .tooLong
      else if (root.get? (place ++ [part])).isSome then root.follow (place ++ [part]) rest
      else .error .missing
    else .error .notDirectory

/-- Where a path leads: to something that is there, or to a free place in a directory. -/
inductive Target where
  /-- Something is there. -/
  | taken (place : Place) (node : Node)
  /-- Nothing is there, but the directory that would hold it is. -/
  | free (place : Place)

/-- Whether a part of a path is the name of an entry. -/
def isEntryName (part : String) : Bool :=
  part ≠ "." && part ≠ ".."

/-- Where a path leads. A path that cannot be asked for is refused before it is followed. -/
def target (root : Node) (path : Path) : Except Obstacle Target :=
  if path.isCut then .error .cut
  else if path.isTooLong then .error .tooLong
  else match root.follow [] path with
  | .ok place =>
    match root.get? place with
    | some node => .ok (.taken place node)
    | none => .error .missing
  | .error .missing =>
    match path.getLast? with
    | some name =>
      if isEntryName name then
        match root.follow [] path.dropLast with
        | .ok place =>
          if (root.get? place).any isDirectory then .ok (.free (place ++ [name]))
          else .error .notDirectory
        | .error e => .error e
      else .error .missing
    | none => .error .missing
  | .error e => .error e

/-- Whether a path leads to a directory. -/
def hasDirectory (root : Node) (path : Path) : Bool :=
  match root.target path with
  | .ok (.taken _ node) => node.isDirectory
  | _ => false

/-! ## Operations -/

/-- The octets of a file. -/
def fetch (root : Node) (path : Path) : Except Obstacle ByteArray :=
  match root.target path with
  | .ok (.taken _ (.file octets)) => .ok octets
  | .ok (.taken _ (.directory _)) => .error .isDirectory
  | .ok (.free _) => .error .missing
  | .error e => .error e

/-- Makes a directory in a directory that is there. -/
def makeDirectory (root : Node) (path : Path) : Except Obstacle Node :=
  match root.target path with
  | .ok (.taken _ _) => .error .occupied
  | .ok (.free place) => .ok (root.set place (some .empty))
  | .error e => .error e

/-- How an operation of several steps went, and the tree after it. The steps done before a failure
are not undone. -/
structure Attempt where
  result : Except Obstacle Unit
  tree : Node

/-- One step that either gives a new tree or changes nothing. -/
def attempt (root : Node) : Except Obstacle Node → Attempt
  | .ok tree => ⟨.ok (), tree⟩
  | .error e => ⟨.error e, root⟩

/-- Makes a directory, unless the path leads to one already. -/
def ensureDirectory (root : Node) (path : Path) : Attempt :=
  match root.makeDirectory path with
  | .ok tree => ⟨.ok (), tree⟩
  | .error e => if root.hasDirectory path then ⟨.ok (), root⟩ else ⟨.error e, root⟩

/-- Makes a directory and the directories on the way to it, as far as they are missing. -/
def makeAll (root : Node) (path : Path) : Attempt :=
  if _h : path = [] then ⟨.ok (), root⟩
  else
    match root.ensureDirectory path with
    | ⟨.error .missing, _⟩ =>
      match root.makeAll path.parent with
      | ⟨.ok (), tree⟩ => tree.ensureDirectory path
      | failed => failed
    | done => done
termination_by path.length
decreasing_by exact Path.parent_length_lt _h

/-- Writes a file, new or in place of the old one. -/
def store (root : Node) (path : Path) (octets : ByteArray) : Except Obstacle Node :=
  match root.target path with
  | .ok (.taken _ (.directory _)) => .error .isDirectory
  | .ok (.taken place (.file _)) => .ok (root.set place (some (.file octets)))
  | .ok (.free place) => .ok (root.set place (some (.file octets)))
  | .error e => .error e

def removeFile (root : Node) (path : Path) : Except Obstacle Node :=
  match root.target path with
  | .ok (.taken place (.file _)) => .ok (root.set place none)
  | .ok (.taken _ (.directory _)) => .error .isDirectory
  | .ok (.free _) => .error .missing
  | .error e => .error e

/-- Moves a file, new or in place of an old one. -/
def rename (root : Node) (old new : Path) : Except Obstacle Node :=
  match root.target old, root.target new with
  | .ok (.taken source (.file octets)), .ok (.taken goal (.file _)) =>
    .ok ((root.set source none).set goal (some (.file octets)))
  | .ok (.taken source (.file octets)), .ok (.free goal) =>
    .ok ((root.set source none).set goal (some (.file octets)))
  | .ok (.taken _ (.file _)), .ok (.taken _ (.directory _)) => .error .isDirectory
  | .ok (.taken _ (.file _)), .error e => .error e
  | .ok (.taken _ (.directory _)), _ => .error .isDirectory
  | .ok (.free _), _ => .error .missing
  | .error e, _ => .error e

/-- Removes a file, or all that a directory holds and then the directory, by the same path. If the path
leads through what the directory held, it leads nowhere then, and the directory stays. -/
def removeAll (root : Node) (path : Path) : Attempt :=
  match root.target path with
  | .ok (.taken place (.directory _)) =>
    let emptied := root.set place (some .empty)
    match emptied.target path with
    | .error _ => ⟨.ok (), emptied⟩
    | .ok _ =>
      if path.getLast? = some "." then ⟨.error .unnamed, emptied⟩
      else ⟨.ok (), emptied.set place none⟩
  | .ok (.taken place (.file _)) => ⟨.ok (), root.set place none⟩
  | .ok (.free _) => ⟨.error .missing, root⟩
  | .error e => ⟨.error e, root⟩

/-! ## Listing -/

mutual

/-- All places below a node that stands at a place, each directory before what it holds. -/
def listing (place : Place) : Node → List (Place × Option ByteArray)
  | .file octets => [(place, some octets)]
  | .directory entries => (place, none) :: entriesListing place entries

/-- The listings of entries, in their order. -/
def entriesListing (place : Place) : List (String × Node) → List (Place × Option ByteArray)
  | [] => []
  | (name, n) :: rest => listing (place ++ [name]) n ++ entriesListing place rest

end

/-- Compares two places by their names from the root on. -/
def placeBefore : Place → Place → Bool
  | [], _ => true
  | _ :: _, [] => false
  | a :: p, b :: q => if a = b then placeBefore p q else a < b

/-- All files, with what they hold, and directories of a tree, in alphabetical order, each directory
before what it holds. -/
def contents (root : Node) : List (Place × Option ByteArray) :=
  ((listing [] root).filter fun e => !e.1.isEmpty).mergeSort fun a b => placeBefore a.1 b.1

end Node

end Storage
end TournamentDesk
