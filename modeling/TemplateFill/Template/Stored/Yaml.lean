import TemplateFill.Template.Parameter
import TemplateFill.Yaml.Writer

/-!
# Parameters as they are stored in YAML

The members are those of a parameter that is stored in JSON, under the same names and in the same
order.  The type may also be written as a tag.
-/

namespace TemplateFill

namespace Parameter

/-- A parameter as a YAML mapping. -/
def toYaml (p : Parameter) : Yaml.Value :=
  let written : List (Text × Option Yaml.Value) :=
    [("name", some (.string p.name)), ("type", some (.string p.kind.label)),
      ("default", if p.default.isEmpty then none else some (.string p.default)),
      ("options",
        if p.options.isEmpty then none else some (.sequence (p.options.map .string))),
      ("dynamic_cmd", if p.command.isEmpty then none else some (.string p.command))]
  .mapping (written.filterMap fun m => m.2.map fun v => (.string m.1, v))

/-- The parameters as a YAML document. -/
def writeYaml (ps : List Parameter) : Text := (Yaml.Value.sequence (ps.map toYaml)).text

/-- The kind that a node names: a word, or a tag with nothing behind it. -/
def kindOfTree? : Yaml.Tree → Option Kind
  | .scalar (some ('!' :: label)) s style =>
    if style = .plain ∧ (s.isEmpty ∨ Yaml.isNullWord s) then Kind.ofLabel? label else none
  | .scalar _ s _ => Kind.ofLabel? s
  | _ => none

/-- The parameter that a node holds. -/
def ofTree? (t : Yaml.Tree) : Option Parameter := do
  let [name, kind, default, options, command] ←
    t.record? ["name", "type", "default", "options", "dynamic_cmd"] | none
  return {
    name := ← (← name).text?
    kind := ← kind.elim (some .text) kindOfTree?
    default := ← default.elim (some []) Yaml.Tree.text?
    options := ← options.elim (some []) Yaml.Tree.texts?
    command := ← command.elim (some []) Yaml.Tree.text? }

/-- The parameters that a text of YAML holds. -/
def readYaml (s : Text) : Option (List Parameter) := do
  (← (← Yaml.Tree.read s).items?).mapM ofTree?

end Parameter

end TemplateFill
