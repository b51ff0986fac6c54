import TemplateFill.Resolver.Waiting
import TemplateFill.Session.Loop

/-!
# Resolving the parameters of a session

Each job of a session runs its command and reports the outcome to the session.  No job waits for
another, and the order in which they report has no effect on what the session becomes.
-/

namespace TemplateFill

/-- The message in which a job reports what its command has produced. -/
def Job.run (j : Job) (settings : ResolverSettings) (start : Starter) : Message :=
  j.report (settings.resolve start j.command)

namespace Session

/-- The events by which the jobs of a session report. -/
def reports (s : Session) (settings : ResolverSettings) (start : Starter) : List Event :=
  s.jobs.map fun j => .report (j.run settings start)

end Session

end TemplateFill
