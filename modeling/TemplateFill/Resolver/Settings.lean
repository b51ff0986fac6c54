import TemplateFill.Resolver.Outcome

/-!
# How commands are run

A command is given to a shell as its last argument, and may take only so long.
-/

namespace TemplateFill

/-- How commands are run. -/
structure ResolverSettings where
  timeout : Duration
  shell : Text
  /-- The arguments before the command. -/
  arguments : List Text
  deriving DecidableEq, Repr

namespace ResolverSettings

/-- No command may take longer than this, whatever the settings say. -/
def longest : Duration := .ofSeconds 5

/-- The shell that is used if none is given. -/
def standardShell : Text := "sh"

/-- The arguments of the shell that is used if none are given. -/
def standardArguments : List Text := ["-c"]

/-- The time that a command may take. -/
def limit (s : ResolverSettings) : Duration := min s.timeout longest

end ResolverSettings

end TemplateFill
