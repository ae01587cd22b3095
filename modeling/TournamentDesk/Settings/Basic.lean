import TournamentDesk.Office.Basic
import TournamentDesk.Settings.Address
import TournamentDesk.Settings.Environment
import TournamentDesk.Storage.Path
import TournamentDesk.Text.Blank
import TournamentDesk.Text.LowerCase
import TournamentDesk.Text.Quoted

/-!
# Settings

What a server is told before it starts: where it is reached, where its records are, which token the
organizer bears, and what becomes of changes that could not be saved. Each setting comes from a
variable of the environment, if that has a text, or else has a default; the first two can be given
outright, which overrides the variable.
-/

namespace TournamentDesk

/-- What a server is told before it starts. -/
structure Settings where
  address : Settings.Address
  directory : String
  token : String
  policy : Office.Policy
deriving DecidableEq, Repr

namespace Settings

open Office (Policy)

/-- The variables that are looked at. -/
inductive Variable where
  | address
  | directory
  | token
  | policy
deriving DecidableEq, Repr

def Variable.name : Variable → String
  | .address => "SERVER_BIND"
  | .directory => "DATA_DIR"
  | .token => "ADMIN_TOKEN"
  | .policy => "ROLLBACK_POLICY"

def Variable.all : List Variable :=
  [.address, .directory, .token, .policy]

/-- What is wrong with settings. -/
inductive Flaw where
  | notAddress (text : String)
  /-- The text of the variable, in lower case and trimmed, is no policy. -/
  | notPolicy (text : String)
  | empty (v : Variable)
deriving DecidableEq, Repr

/-- The variable whose setting has a flaw. -/
def Flaw.subject : Flaw → Variable
  | .notAddress _ => .address
  | .notPolicy _ => .policy
  | .empty v => v

/-- What is wrong with the setting of a variable, in words. -/
def Flaw.reason : Flaw → String
  | .notAddress text => Text.quoted text ++ " is not an IP:PORT address"
  | .notPolicy text => Text.quoted text ++ " is not one of: uniform, accept-only"
  | .empty _ => "Must not be empty"

def Flaw.message (f : Flaw) : String :=
  "Invalid configuration for " ++ f.subject.name ++ ": " ++ f.reason

/-! ## Defaults -/

/-- Where a server is reached when nothing is said. -/
def defaultAddress : Address :=
  ⟨.quad ⟨127, 0, 0, 1⟩, 8080⟩

/-- The token of the organizer when nothing is said. -/
def defaultToken : String :=
  "admin123"

/-- What becomes of changes that could not be saved when nothing is said. -/
def defaultPolicy : Policy :=
  .uniform

/-! ## Reading -/

/-- What is given outright. -/
structure Overrides where
  address : Option Address
  directory : Option String
deriving DecidableEq, Repr

/-- The text of a variable. -/
def Environment.setting? (env : Environment) (v : Variable) : Option String :=
  env.text? v.name

def policyWords : List (String × Policy) :=
  [("uniform", .uniform), ("accept-only", .acceptOnly), ("accept_only", .acceptOnly)]

/-- Reads a policy, up to case and blanks at the ends. -/
def readPolicy (text : String) : Except Flaw Policy :=
  let word := Text.normalForm text
  (policyWords.lookup word).elim (.error (.notPolicy word)) .ok

def readAddress (text : String) : Except Flaw Address :=
  (Address.parse? text).elim (.error (.notAddress text)) .ok

/-- What is given outright, or else read from the text of a variable, or else the default. -/
def choose {α : Type} (given : Option α) (text : Option String) (read : String → Except Flaw α)
    (default : α) : Except Flaw α :=
  match given with
  | some a => .ok a
  | none => text.elim (.ok default) read

/-- The settings from an environment and what is given outright. -/
def ofEnvironment (env : Environment) (given : Overrides) : Except Flaw Settings :=
  match choose given.address (env.setting? .address) readAddress defaultAddress with
  | .error f => .error f
  | .ok address =>
    match choose none (env.setting? .policy) readPolicy defaultPolicy with
    | .error f => .error f
    | .ok policy =>
      .ok
        { address
          directory :=
            (given.directory.or (env.setting? .directory)).getD Storage.defaultDirectory
          token := (env.setting? .token).getD defaultToken
          policy }

/-! ## Checking -/

/-- Requires a token that is not blank and a directory that is not empty. -/
def check (s : Settings) : Except Flaw Unit :=
  if Text.isBlank s.token then .error (.empty .token)
  else if s.directory = "" then .error (.empty .directory)
  else .ok ()

end Settings
end TournamentDesk
