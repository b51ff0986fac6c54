import TemplateFill.Error
import TemplateFill.Files.Path
import TemplateFill.Resolver.Settings
import TemplateFill.Yaml.Value

/-!
# Configuration

A configuration says how commands are run, how many options are shown at once, and where the
journal is kept.  Fields that are not known are kept as they are.
-/

namespace TemplateFill

/-- A configuration. -/
structure Config where
  /-- The number of seconds that a command may take. -/
  timeoutSeconds : Nat
  shell : Text
  /-- The arguments of the shell before the command. -/
  shellArguments : List Text
  /-- The number of options that are shown at once. -/
  maxVisible : Nat
  /-- The file of the journal, if one is kept. -/
  journal : Option Path
  /-- The fields that are not known, sorted by name. -/
  extra : List (Text × Yaml.Value)
  deriving Repr

namespace Config

/-- The configuration that is used if none is given. -/
def standard : Config :=
  ⟨5, ResolverSettings.standardShell, ResolverSettings.standardArguments, 5, none, []⟩

/-- The greatest number of seconds that a command may be given. -/
def longestTimeout : Nat := 5

/-- What is wrong with a configuration. -/
inductive Defect where
  | noTimeout
  | longTimeout (seconds : Nat)
  | nothingVisible
  | noShell
  deriving DecidableEq, Repr

/-- The text of a defect. -/
def Defect.message (d : Defect) : Text :=
  "config validation failed: " ++
    match d with
    | .noTimeout => ("resolve_timeout_secs must be greater than 0" : Text)
    | .longTimeout n =>
      "resolve_timeout_secs must be at most " ++ Text.ofNat longestTimeout ++ " (found "
        ++ Text.ofNat n ++ [')']
    | .nothingVisible => "max_visible_options must be greater than 0"
    | .noShell => "shell must be non-empty"

/-- The first defect of a configuration. -/
def defect? (c : Config) : Option Defect :=
  if c.timeoutSeconds = 0 then some .noTimeout
  else if longestTimeout < c.timeoutSeconds then some (.longTimeout c.timeoutSeconds)
  else if c.maxVisible = 0 then some .nothingVisible
  else if (Text.trim c.shell).isEmpty then some .noShell
  else none

/-- How commands are run under a configuration. -/
def resolver (c : Config) : ResolverSettings :=
  { timeout := min (.ofSeconds c.timeoutSeconds) ResolverSettings.longest
    shell := c.shell
    arguments := c.shellArguments }

end Config

end TemplateFill
