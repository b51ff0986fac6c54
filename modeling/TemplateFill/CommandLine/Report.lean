import TemplateFill.CommandLine.Arguments
import TemplateFill.Config.Discovery
import TemplateFill.Host.Describe
import TemplateFill.Host.InputLine
import TemplateFill.Host.Prefill
import TemplateFill.Journal.File
import TemplateFill.Resolver.Report
import TemplateFill.Session.Resolution
import TemplateFill.Template.Snippet
import TemplateFill.Template.Stored.Json
import TemplateFill.Template.Stored.Yaml

/-!
# What a command comes to

A command is carried out in an environment and comes to a report, which says what it writes, how it
ends and what the journal is to note.  The configuration is found before anything else is done.

A session that is filled in takes the reports of its jobs first and then the input, line by line;
what it shows after the first lines does not depend on the later ones.  The input is read ahead of
the session, so a line that is no command is reported even if the session has ended before it.
-/

namespace TemplateFill

/-- What a command depends on besides its arguments. -/
structure Environment where
  files : FileView
  /-- The environment variables that say where the configuration is. -/
  homes : Config.Variables
  /-- The place where programs are started. -/
  start : Starter
  /-- The bytes of the standard input. -/
  input : List UInt8

/-- What a command has come to. -/
structure Report where
  /-- What is written to the standard output. -/
  result : Text
  /-- What is written to the standard error before the error. -/
  shown : Text
  /-- The lines of the input that are no command that there is. -/
  unrecognized : List Text
  error : Option Error
  /-- Whether more input would be taken. -/
  waits : Bool
  /-- The journal that is kept. -/
  journal : Option Path
  /-- What happened in a session. -/
  notes : List Journal.Note

namespace Report

/-- A report that says nothing. -/
def silent : Report := ⟨[], [], [], none, false, none, []⟩

/-- The report of an error. -/
def failed (e : Error) : Report := { silent with error := some e }

/-- The report of a result, which ends with a line feed. -/
def printed (t : Text) : Report := { silent with result := t ++ ['\n'] }

/-- What is written to the standard error, but for the lines that are no command. -/
def standardError (r : Report) : Text :=
  r.shown ++ match r.error with
    | none => []
    | some e => "Error: " ++ e.message ++ ['\n']

/-- The exit code. -/
def exitCode (r : Report) : Nat := r.error.elim 0 Error.exitCode

end Report

/-- The parameters as they are listed in a format. -/
def ListFormat.write : ListFormat → List Parameter → Text
  | .yaml, ps => Parameter.writeYaml ps
  | .json, ps => Parameter.writeJson ps

namespace Command

/-- The report of listing the parameters of a template, with a warning for each redeclaration. -/
def list (template : Text) (format : ListFormat) : Report :=
  let d := declarations template
  { Report.silent with
    result := format.write d.parameters
    shown := d.redeclarations.flatMap fun r => "Warning: " ++ r.message ++ ['\n'] }

/-- The report of running the commands of a template's dynamic parameters. -/
def resolveParameters (c : Config) (env : Environment) (template : Text) : Report :=
  let ps := (parameters template).filter (·.kind = .dynamic)
  if ps.isEmpty then { Report.silent with shown := "Template has no dynamic parameters.\n" }
  else
    { Report.silent with
      result := Outcome.reports ps (c.resolver.resolveAll env.start (ps.map (·.command))) }

/-- The session of a template with values given by pairs. -/
def begin (template : Text) (pairs : List Text) : Except Error Session := do
  let as ← (Assignments.ofPairs pairs).mapError Assignments.Fault.error
  ((Sessions.initial.begin template).1.prefill as).mapError Session.PrefillFault.error

/-- The report of filling in the template of a session. -/
def fillIn (c : Config) (env : Environment) (journal : Option Path) (s : Session) : Report :=
  let input := InputLine.decodeBytes env.input
  let events := s.reports c.resolver env.start ++ input.inputs.map .input
  let run := s.run events
  { result := match run.ending with
      | .submitted command => command ++ ['\n']
      | .cancelled => []
    shown := (s :: run.after).flatMap (·.describe c.maxVisible)
    unrecognized := input.unrecognized
    error := match run.ending with
      | .submitted _ => none
      | .cancelled => some .cancelled
    waits := run.after.length = events.length && input.badLine.isNone
    journal := journal
    notes := Journal.Note.ofRun s.id run }

/-- The report of a command under a configuration. -/
def run (c : Config) (env : Environment) : Command → Report
  | .params template format => list template format
  | .render template pairs =>
    match renderAssigned template pairs with
    | .ok t => .printed t
    | .error f => .failed f.error
  | .resolve template => resolveParameters c env template
  | .fill template pairs journal =>
    match begin template pairs with
    | .ok s => fillIn c env (journal <|> c.journal) s
    | .error e => .failed e
  | .convert snippet => .printed (convertSnippet snippet)

end Command

/-- The report of an invocation. -/
def Invocation.run (i : Invocation) (env : Environment) : Report :=
  match Config.discover env.files env.homes i.config with
  | .ok c => i.command.run c env
  | .error f => .failed f.error

end TemplateFill
