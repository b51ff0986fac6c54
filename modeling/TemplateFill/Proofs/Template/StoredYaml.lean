import TemplateFill.Proofs.Template.Stored
import TemplateFill.Proofs.Yaml.Value
import TemplateFill.Template.Stored.Yaml

/-!
# Parameters that come back from YAML

A parameter is stored in YAML as it is in JSON: its empty fields are left out, and those that are
there are found by their names (`Parameter.record?_toTree`).  So the nodes of a stored parameter
stand for the parameter (`Parameter.ofTree?_toTree`), and parameters come back from their text if
its nodes do (`Parameter.readYaml_writeYaml`).
-/

namespace TemplateFill

namespace Parameter

open Yaml

/-- The members of a stored parameter are found by their names, as far as they are there. -/
lemma record?_toTree (p : Parameter) :
    p.toYaml.toTree.record? ["name", "type", "default", "options", "dynamic_cmd"] =
      some [some (Value.string p.name).toTree, some (Value.string p.kind.label).toTree,
        if p.default.isEmpty then none else some (Value.string p.default).toTree,
        if p.options.isEmpty then none
          else some (Value.sequence (p.options.map .string)).toTree,
        if p.command.isEmpty then none else some (Value.string p.command).toTree] := by
  rw [toYaml]
  split_ifs <;> rfl

/-- The word for a kind is no tag. -/
lemma kindOfTree?_toTree (k : Kind) : kindOfTree? (Value.string k.label).toTree = some k := by
  rw [Value.toTree, kindOfTree?]
  · exact Kind.ofLabel?_label k
  · intro label h
    exact absurd h (by simp)

/-- A text that is left out if it is empty comes back. -/
lemma elim_text (s : Text) :
    (if s.isEmpty then none else some (Value.string s).toTree).elim (some []) Tree.text? =
      some s := by
  cases s with
  | nil => rfl
  | cons c s => exact Value.text?_toTree (c :: s)

/-- Options that are left out if there are none come back. -/
lemma elim_options (os : List Text) :
    (if os.isEmpty then none else some (Value.sequence (os.map .string)).toTree).elim (some [])
      Tree.texts? = some os := by
  cases os with
  | nil => rfl
  | cons o os => exact Value.texts?_toTree (o :: os)

/-- The nodes of a parameter stand for the parameter. -/
theorem ofTree?_toTree (p : Parameter) : ofTree? p.toYaml.toTree = some p := by
  have hname : (Value.string p.name).toTree.text? = some p.name := Value.text?_toTree p.name
  have hkind : (some (Value.string p.kind.label).toTree).elim (some .text) kindOfTree? =
      some p.kind := kindOfTree?_toTree p.kind
  rw [ofTree?, record?_toTree]
  simp only [Option.bind_eq_bind, Option.bind_some, hname, hkind, elim_text, elim_options]
  rfl

/-- If the text of stored parameters is read as the nodes that were written, then it is read as the
parameters, whatever they are and whichever of their fields are empty. -/
theorem readYaml_writeYaml {ps : List Parameter}
    (hback : (Value.sequence (ps.map toYaml)).ReadsBack) : readYaml (writeYaml ps) = some ps := by
  have hitems : (Value.sequence (ps.map toYaml)).toTree.items? =
      some (ps.map fun p => p.toYaml.toTree) := by
    rw [Value.toTree, Value.itemsToTrees_eq, List.map_map]
    rfl
  rw [readYaml, writeYaml, hback, Option.bind_eq_bind, Option.bind_some, hitems,
    Option.bind_eq_bind, Option.bind_some]
  exact mapM_map_eq_some fun p _ => ofTree?_toTree p

/-- Parameters with all fields and with none, of which one has a word for nothing, quotes and line
ends. -/
example :
    let ps : List Parameter :=
      [⟨[], .text, [], [], []⟩, ⟨['~'], .choice, "\n".toList, [[], "\"1".toList], ['x']⟩]
    readYaml (writeYaml ps) = some ps := by
  intro ps
  refine readYaml_writeYaml ?_
  unfold Value.ReadsBack
  decide +kernel

end Parameter

end TemplateFill
