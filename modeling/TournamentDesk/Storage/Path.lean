/-!
# Paths

A path is its parts between slashes. An empty part says nothing and is dropped. A part `.` stays where
it is and a part `..` goes up.
-/

namespace TournamentDesk
namespace Storage

/-- The parts of a path, outermost first. -/
abbrev Path := List String

/-- The parts of a written path. -/
def Path.ofString (s : String) : Path :=
  (s.splitOn "/").filter fun part => part ≠ ""

/-- A path written with one slash between its parts. -/
def Path.text (p : Path) : String :=
  String.intercalate "/" p

/-- A written path with a name behind it. -/
def joinText (directory name : String) : String :=
  if directory = "" || directory.endsWith "/" then directory ++ name else directory ++ "/" ++ name

/-- The parts without the ones at the end that stay where they are. -/
def Path.trimmed (p : Path) : Path :=
  (p.reverse.dropWhile fun part => part = ".").reverse

/-- The path of the directory that holds what a path leads to. It does not end in a part that stays
where it is, either. -/
def Path.parent (p : Path) : Path :=
  Path.trimmed p.trimmed.dropLast

theorem Path.trimmed_length_le (p : Path) : p.trimmed.length ≤ p.length := by
  have hdrop := (List.dropWhile_sublist (l := p.reverse) fun part => part = ".").length_le
  rw [List.length_reverse] at hdrop
  unfold Path.trimmed
  rw [List.length_reverse]
  exact hdrop

theorem Path.parent_length_lt {p : Path} (h : p ≠ []) : p.parent.length < p.length := by
  have hpos : 0 < p.length := List.length_pos_iff.2 h
  have hle := p.trimmed_length_le
  have hle' := Path.trimmed_length_le p.trimmed.dropLast
  rw [List.length_dropLast] at hle'
  unfold Path.parent
  omega

/-! ## Limits -/

/-- The most octets in the name of a file or a directory. -/
def longestName : Nat :=
  255

/-- The most octets in a path. -/
def longestPath : Nat :=
  4095

def isTooLong (name : String) : Bool :=
  longestName < name.utf8ByteSize

def Path.isTooLong (p : Path) : Bool :=
  longestPath < p.text.utf8ByteSize

/-- Whether a path has the character U+0000 in it, which ends a path and cannot be a part of one. -/
def Path.isCut (p : Path) : Bool :=
  p.any fun part => part.toList.contains (Char.ofNat 0)

/-! ## Records -/

/-- A path and the paths of all directories above it, innermost first. -/
def Path.upward (p : Path) : List Path :=
  (List.range (p.length + 1)).reverse.map fun n => p.take n

def tournamentFile : String :=
  "tournament.json"

def queueFile : String :=
  "pending_players.json"

/-- What is added to the name of a record's file while it is written. -/
def temporarySuffix : String :=
  ".tmp"

/-- The data directory when none is named. -/
def defaultDirectory : String :=
  "data"

def tournamentPath (directory : String) : String :=
  joinText directory tournamentFile

def queuePath (directory : String) : String :=
  joinText directory queueFile

end Storage
end TournamentDesk
