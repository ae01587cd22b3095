import TournamentDesk.Http.Service
import TournamentDesk.Settings.Basic

/-!
# The command line

Before all else the environment takes in a file of assignments. A server is started with two options,
both with a value, or asked for help, wherever the flag for it stands. What is no option is passed
over. Then the settings are read and checked, the records are loaded, and the server takes its
address.
-/

namespace TournamentDesk
namespace CommandLine

open Office (Problem)
open Settings (Address Assignment Environment Overrides)
open Storage (Fault RecordName)

def addressOption : String :=
  "--bind"

def directoryOption : String :=
  "--data-dir"

def helpFlags : List String :=
  ["-h", "--help"]

/-- What is said when asked for help. -/
def helpText : String :=
  String.join <| List.map (· ++ "\n")
    ["Run a Swiss-system tournament registration server",
      "",
      "USAGE:",
      "  os_server [OPTIONS]",
      "",
      "OPTIONS:",
      "  --bind       IP:PORT     Server socket bind address  " ++
        "[default: env SERVER_BIND or 127.0.0.1:8080]",
      "  --data-dir   PATH        Directory for tournament data  [default: env DATA_DIR or data]",
      "",
      "FLAGS:",
      "  -h, --help               Print help information",
      "",
      "ENVIRONMENT:",
      "  SERVER_BIND              Server bind address (e.g., 0.0.0.0:8080)",
      "  DATA_DIR                 Directory holding tournament.json and pending_players.json",
      "  ADMIN_TOKEN              Bearer token for /api/v1/admin routes",
      "  ROLLBACK_POLICY          uniform (default) or accept-only",
      "  RUST_LOG                 Log filter (default: info)"]

/-! ## Failures -/

/-- What is wrong with the arguments. -/
inductive Misuse where
  /-- An option stands last, without its value. -/
  | noValue (option : String)
  | notAddress (value : String)
deriving DecidableEq, Repr

def Misuse.message : Misuse → String
  | .noValue option => "the '" ++ option ++ "' option doesn't have an associated value"
  | .notAddress value => "failed to parse '" ++ value ++ "': invalid socket address syntax"

/-- Why a server does not start. -/
inductive Failure where
  /-- A file of assignments gives a name a text that no environment can hold. -/
  | environment (name : String)
  | misuse (m : Misuse)
  | settings (flaw : Settings.Flaw)
  | records (problem : Problem)
  | address (a : Address)
deriving DecidableEq, Repr

def Failure.message : Failure → String
  | .environment name => "the environment cannot hold the value of " ++ name
  | .misuse m => m.message
  | .settings flaw => flaw.message
  | .records _ => "Failed to load tournament data"
  | .address a => "Failed to bind to " ++ a.render

/-- What lies behind a failure, in words, if more can be said. -/
def Failure.cause? : Failure → Option String
  | .records problem => some problem.message
  | _ => none

/-- Whether a failure comes before the program has begun its work. -/
def Failure.isEarly : Failure → Bool
  | .environment _ => true
  | _ => false

/-- What is said of a failure. An early one stands behind an empty line. -/
def Failure.report (f : Failure) : String :=
  if f.isEarly then "\n" ++ f.message
  else "Error: " ++ f.message ++ (f.cause?.elim "" fun cause => "\n\nCaused by:\n    " ++ cause)

/-- The exit code of a failure. -/
def Failure.code (f : Failure) : Nat :=
  if f.isEarly then 101 else 1

/-! ## Arguments -/

/-- Takes an option and its value out of arguments. Only the first one counts. -/
def takeOption (option : String) : List String → Except Misuse (Option String × List String)
  | [] => .ok (none, [])
  | argument :: rest =>
    if argument = option then
      match rest with
      | [] => .error (.noValue option)
      | value :: rest => .ok (some value, rest)
    else (takeOption option rest).map fun r => (r.1, argument :: r.2)

def readAddress (value : Option String) : Except Misuse (Option Address) :=
  match value with
  | none => .ok none
  | some text => (Address.parse? text).elim (.error (.notAddress text)) fun a => .ok (some a)

/-- What the arguments give outright. -/
def overrides (arguments : List String) : Except Misuse Overrides := do
  let (value, rest) ← takeOption addressOption arguments
  let address ← readAddress value
  let (directory, _) ← takeOption directoryOption rest
  return ⟨address, directory⟩

/-! ## Starting -/

/-- What a command asks for. -/
inductive Plan where
  | help
  | serve (settings : Settings)
deriving DecidableEq, Repr

/-- The environment after a file of assignments. -/
def prepare (env : Environment) (assignments : List Assignment) : Except Failure Environment :=
  (env.load assignments).mapError .environment

/-- What arguments and an environment ask for. -/
def plan (arguments : List String) (env : Environment) : Except Failure Plan :=
  if arguments.any helpFlags.contains then .ok .help
  else
    match overrides arguments with
    | .error m => .error (.misuse m)
    | .ok given =>
      match Settings.ofEnvironment env given with
      | .error flaw => .error (.settings flaw)
      | .ok settings =>
        match settings.check with
        | .error flaw => .error (.settings flaw)
        | .ok () => .ok (.serve settings)

/-- Loads the records that are read from a directory, takes the address, if that is possible, and is
ready to answer. -/
def launch (settings : Settings) (read : RecordName → Except Fault (Option ByteArray))
    (canTake : Address → Bool) : Except Failure Http.Service :=
  match Office.openOn read settings.policy with
  | .error problem => .error (.records problem)
  | .ok office =>
    if canTake settings.address then .ok ⟨office, settings.token⟩
    else .error (.address settings.address)

end CommandLine
end TournamentDesk
