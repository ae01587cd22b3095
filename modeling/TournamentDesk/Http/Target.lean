import TournamentDesk.Text.Scan

/-!
# Request targets

A request names what it asks for in one of four ways: by a path, by a whole URI with a path in it, by
an authority alone, or by an asterisk for the service itself. A path ends where a query or a fragment
begins.
-/

namespace TournamentDesk
namespace Http

def endsPath (c : Char) : Bool :=
  c = '?' || c = '#'

def endsAuthority (c : Char) : Bool :=
  c = '/' || endsPath c

def isSchemeChar (c : Char) : Bool :=
  c.isAlphanum || ['+', '-', '.'].contains c

/-- What follows the scheme of a URI and its mark, if there is one. -/
def afterScheme? (target : List Char) : Option (List Char) :=
  match target.dropWhile isSchemeChar with
  | ':' :: '/' :: '/' :: rest => some rest
  | _ => none

/-- A path in front of its query. -/
def beforeQuery (s : List Char) : List Char :=
  s.takeWhile fun c => !endsPath c

/-- The path behind an authority, which is that of the root if nothing is written. -/
def pathBehindAuthority (s : List Char) : List Char :=
  match beforeQuery (s.dropWhile fun c => !endsAuthority c) with
  | [] => ['/']
  | path => path

/-- The path that a target asks for. An authority alone has none, and an asterisk stands for itself. -/
def pathOf (target : List Char) : List Char :=
  if target.head? = some '/' ∨ target = ['*'] then beforeQuery target
  else (afterScheme? target).elim [] pathBehindAuthority

end Http
end TournamentDesk
