import TemplateFill.Config.Stored
import TemplateFill.Files.Access

/-!
# Finding the configuration

The configuration is in the file that is named on the command line, or else at a standard place
that two environment variables determine.  A named file has to exist; a file at the standard place
may be missing.
-/

namespace TemplateFill

namespace Config

/-- The environment variables that determine the standard place, where they are set. -/
structure Variables where
  /-- The directory of configurations. -/
  configHome : Option Path
  home : Option Path
  deriving DecidableEq, Repr

/-- The standard place of the configuration.  A variable that is empty counts as not set. -/
def Variables.standardPath? (v : Variables) : Option Path :=
  let base :=
    match v.configHome.filter (!List.isEmpty ·) with
    | some d => some d
    | none => (v.home.filter (!List.isEmpty ·)).map fun d => Path.join d ".config"
  base.map fun d => (Path.join d "cmdfill").join "config.yaml"

/-- Why there is no configuration. -/
inductive LoadFault where
  | inaccessible (path : Path) (why : FileError)
  | wrong (path : Path) (why : Fault)
  deriving DecidableEq, Repr

/-- The text of the fault. -/
def LoadFault.message : LoadFault → Text
  | .inaccessible path why =>
    "failed to read config file '" ++ path ++ "': " ++ why.message
  | .wrong path why => why.message ++ " (" ++ path ++ [')']

/-- The error that a command ends with. -/
def LoadFault.error (f : LoadFault) : Error := .configuration f.message

section Search

variable {m : Type → Type} [Monad m] (files : FileAccess m)

/-- The configuration in a file. -/
def load (path : Path) : m (Except LoadFault Config) := do
  match ← files.read path with
  | .error why => return .error (.inaccessible path why)
  | .ok s => return (read s).mapError (.wrong path)

/-- The configuration in a file that may be missing. -/
def loadIfPresent (path : Path) : m (Except LoadFault Config) := do
  if ← files.contains path then load files path else return .ok standard

/-- The search for the configuration that is named, or else for the one at the standard place. -/
def search (v : Variables) (named : Option Path) : m (Except LoadFault Config) :=
  match named with
  | some path => load files path
  | none =>
    match v.standardPath? with
    | some path => loadIfPresent files path
    | none => return .ok standard

end Search

/-- The configuration that is found. -/
def discover (files : FileView) (v : Variables) (named : Option Path) :
    Except LoadFault Config :=
  (search files.access v named).run

end Config

end TemplateFill
