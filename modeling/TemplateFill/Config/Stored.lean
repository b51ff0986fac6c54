import TemplateFill.Config.Basic
import TemplateFill.Yaml.Writer

/-!
# Configurations as they are stored

A configuration is stored as a YAML mapping.  The known fields come first and in a fixed order, the
path of the journal only if there is one, and the other fields follow sorted by name.  Fields that
are missing have their standard values.
-/

namespace TemplateFill

namespace Config

/-- The names of the known fields. -/
def fieldNames : List Text :=
  ["resolve_timeout_secs", "shell", "shell_args", "max_visible_options", "journal_path"]

/-- A configuration as a YAML mapping. -/
def toYaml (c : Config) : Yaml.Value :=
  let known : List (Text × Option Yaml.Value) :=
    [("resolve_timeout_secs", some (.integer c.timeoutSeconds)),
      ("shell", some (.string c.shell)),
      ("shell_args", some (.sequence (c.shellArguments.map .string))),
      ("max_visible_options", some (.integer c.maxVisible)),
      ("journal_path", c.journal.map .string)]
  let written := known.filterMap (fun m => m.2.map fun v => (m.1, v)) ++ c.extra
  .mapping (written.map fun m => (.string m.1, m.2))

/-- The text in which a configuration is stored. -/
def text (c : Config) : Text := c.toYaml.text

/-- The value of a known field; there is no second one of its name. -/
def field? (fields : List (Text × Yaml.Tree)) (name : Text) : Option (Option Yaml.Tree) :=
  match fields.filter (·.1 = name) with
  | [] => some none
  | [f] => some (some f.2)
  | _ => none

/-- The configuration that a node holds. -/
def ofTree? (t : Yaml.Tree) : Option Config := do
  let fields ← t.fields?
  let timeout ← field? fields "resolve_timeout_secs"
  let shell ← field? fields "shell"
  let arguments ← field? fields "shell_args"
  let visible ← field? fields "max_visible_options"
  let journal ← field? fields "journal_path"
  let others := fields.filter fun f => !fieldNames.contains f.1
  let extra ← others.mapM fun f => do return (f.1, ← Yaml.Value.ofTree? f.2)
  return {
    timeoutSeconds := ← timeout.elim (some standard.timeoutSeconds) Yaml.Tree.natural?
    shell := ← shell.elim (some standard.shell) Yaml.Tree.text?
    shellArguments := ← arguments.elim (some standard.shellArguments) Yaml.Tree.texts?
    maxVisible := ← visible.elim (some standard.maxVisible) Yaml.Tree.natural?
    journal := ← journal.elim (some none) (Yaml.Tree.optional? Yaml.Tree.text?)
    extra := Text.sortNamed extra }

/-- Why a text is no configuration. -/
inductive Fault where
  /-- The text is not YAML, or has a value of the wrong kind. -/
  | unreadable
  | defect (d : Defect)
  deriving DecidableEq, Repr

/-- The text of the fault. -/
def Fault.message : Fault → Text
  | .unreadable => "failed to parse config YAML"
  | .defect d => d.message

/-- The configuration that a text holds, if it has no defect. -/
def read (s : Text) : Except Fault Config :=
  match (Yaml.Tree.read s).bind ofTree? with
  | none => .error .unreadable
  | some c =>
    match c.defect? with
    | some d => .error (.defect d)
    | none => .ok c

end Config

end TemplateFill
