import CoScript.Config
import CoScript.Files

/-!
Configurations in files.
-/
namespace CoScript.Config

/-- Why there is no configuration in a file. -/
inductive Unavailable where
  | file (f : FileFault)
  | content (r : Refusal)

/-- What a message says about it. -/
def Unavailable.message : Unavailable → Text
  | file f => f.message
  | content r => r.message

/-- Why a configuration was not written to a file. -/
inductive Unwritten where
  | present (path : Text)
  | file (f : FileFault)

/-- What a message says about it. -/
def Unwritten.message : Unwritten → Text
  | present path => txt "config file " ++ path ++ txt " already exists"
  | file f => txt "failed to write config file: " ++ f.message

variable {m : Type → Type} [Monad m] [Host m]

/-- Reads the configuration in a file. -/
def load (path : Text) : m (Except Unavailable Config) := do
  match ← Host.readFile path with
  | .error f => return .error (.file f)
  | .ok content =>
    match parse content with
    | .ok c => return .ok c
    | .error r => return .error (.content r)

/-- Reads the configuration in a file or, if no file is named, in the usual file. If that is missing, the
configuration is the usual one. -/
def find (path : Text) : m (Except Unavailable Config) := do
  if !path.isEmpty then load path
  else
    match ← load fileName with
    | .error (.file f) => return if f.cause = .missing then .ok .default else .error (.file f)
    | outcome => return outcome

/-- Writes a configuration to a file. A file that is there already is replaced only by force. -/
def write (c : Config) (path : Text) (force : Bool) : m (Except Unwritten Unit) := do
  if !force && (← Host.isThere path) then return .error (.present path)
  else
    match ← Host.writeFile path c.render with
    | .ok () => return .ok ()
    | .error f => return .error (.file f)

end CoScript.Config
