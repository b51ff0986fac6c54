import TemplateFill.Config.Stored
import TemplateFill.Proofs.Yaml.Depth

/-!
# Configurations that come back from where they are stored

The known fields of a configuration and the other ones are members of one mapping.  The known ones
are found by their names, for no other field has one of these (`Config.field?_known`), and what is
left are the other fields, sorted as they were (`Config.others_eq`).  So the nodes of a stored
configuration stand for the configuration (`Config.ofTree?_toTree`), whatever its defects: they are
looked for afterwards.

That the nodes come back from the text is assumed of a configuration that is read.  It never is so
if one of the other fields goes 128 sequences and mappings deep (`Config.not_readsBack`).
-/

namespace TemplateFill

namespace Config

open Yaml

variable {c : Config}

/-- What holds of the configurations that can be stored without loss: the numbers have 64 bits, and
the fields that are not known are sorted, have names of their own and hold data. -/
structure IsSound (c : Config) : Prop where
  timeout_lt : c.timeoutSeconds < 2 ^ 64
  visible_lt : c.maxVisible < 2 ^ 64
  ascending : (c.extra.map Prod.fst).Pairwise (· < ·)
  unknown : ∀ m ∈ c.extra, m.1 ∉ fieldNames
  isData : ∀ m ∈ c.extra, m.2.IsData

/-! ### What is read for each field -/

lemma natural?_toTree {n : Nat} (h : n < 2 ^ 64) :
    (Value.integer n).toTree.natural? = some n := by
  have hpow : n < Nat.pow 2 64 := h
  have hdigits : Text.ofInt n = Text.ofNat n := by simp [Text.ofInt]
  rw [Value.toTree, Tree.natural?, hdigits, natural?_ofNat, if_pos (Or.inl rfl),
    Option.bind_eq_bind, Option.bind_some, if_pos hpow]

/-- A text is no missing value, not even an empty one. -/
lemma optional?_toTree (s : Text) :
    (Value.string s).toTree.optional? Tree.text? = some (some s) := by
  rw [Value.toTree]
  -- only a plain scalar may be taken for nothing, and the words for nothing are not written plain
  by_cases h : styleOf s = .plain
  · have htext := Value.readsAsText_of_styleOf h
    have hword : ¬(s.isEmpty = true ∨ isNullWord s = true) := by
      intro hword
      rw [Meaning.ofPlain, if_pos hword] at htext
      exact absurd htext (by simp)
    rw [h, Tree.optional?, if_neg hword]
    rfl
  · unfold Tree.optional?
    split
    · simp_all
    · simp_all
    · rfl

/-! ### The members of the mapping -/

/-- The known fields that are written. -/
def knownFields (c : Config) : List (Text × Value) :=
  ("resolve_timeout_secs", .integer c.timeoutSeconds) :: ("shell", .string c.shell)
    :: ("shell_args", .sequence (c.shellArguments.map .string))
    :: ("max_visible_options", .integer c.maxVisible)
    :: (c.journal.map fun p => ("journal_path".toList, Value.string p)).toList

lemma toYaml_eq (c : Config) :
    c.toYaml = .mapping ((c.knownFields ++ c.extra).map fun m => (.string m.1, m.2)) := by
  rw [toYaml, knownFields]
  cases c.journal <;> rfl

/-- The nodes of the members of a stored configuration, by their names. -/
lemma fields?_toTree (c : Config) :
    c.toYaml.toTree.fields? =
      some ((c.knownFields ++ c.extra).map fun m => (m.1, m.2.toTree)) := by
  rw [toYaml_eq, Value.toTree, Value.membersToTrees_eq, List.map_map]
  exact mapM_map_eq_map fun m _ => by
    simp only [Function.comp_apply, Value.text?_toTree]
    rfl

/-- Among all members a known field is found as among the known ones. -/
lemma field?_known (hc : c.IsSound) {name : Text} (hname : name ∈ fieldNames) :
    field? ((c.knownFields ++ c.extra).map fun m => (m.1, m.2.toTree)) name =
      field? (c.knownFields.map fun m => (m.1, m.2.toTree)) name := by
  have hextra : (c.extra.map fun m => (m.1, m.2.toTree)).filter (·.1 = name) = [] := by
    rw [List.filter_eq_nil_iff]
    intro f hf
    obtain ⟨m, hm, rfl⟩ := List.mem_map.1 hf
    have hne : m.1 ≠ name := fun h => hc.unknown m hm (h ▸ hname)
    simpa using hne
  rw [field?, field?, List.map_append, List.filter_append, hextra, List.append_nil]

/-- What is left besides the known fields are the other ones. -/
lemma others_eq (hc : c.IsSound) :
    ((c.knownFields ++ c.extra).map fun m => (m.1, m.2.toTree)).filter
        (fun f => !fieldNames.contains f.1) = c.extra.map fun m => (m.1, m.2.toTree) := by
  have hknown : (c.knownFields.map fun m => (m.1, m.2.toTree)).filter
      (fun f => !fieldNames.contains f.1) = [] := by
    rw [knownFields]
    cases c.journal <;> rfl
  rw [List.map_append, List.filter_append, hknown, List.nil_append, List.filter_eq_self]
  intro f hf
  obtain ⟨m, hm, rfl⟩ := List.mem_map.1 hf
  simpa using hc.unknown m hm

/-- The nodes of a configuration stand for the configuration. -/
theorem ofTree?_toTree (hc : c.IsSound) : ofTree? c.toYaml.toTree = some c := by
  let fields := (c.knownFields ++ c.extra).map fun m => (m.1, m.2.toTree)
  -- the known fields are where they are looked for, and only the journal may be missing
  have htimeout : field? fields "resolve_timeout_secs" =
      some (some (Value.integer c.timeoutSeconds).toTree) := by
    rw [field?_known hc (by decide), knownFields]
    cases c.journal <;> rfl
  have hshell : field? fields "shell" = some (some (Value.string c.shell).toTree) := by
    rw [field?_known hc (by decide), knownFields]
    cases c.journal <;> rfl
  have harguments : field? fields "shell_args" =
      some (some (Value.sequence (c.shellArguments.map .string)).toTree) := by
    rw [field?_known hc (by decide), knownFields]
    cases c.journal <;> rfl
  have hvisible : field? fields "max_visible_options" =
      some (some (Value.integer c.maxVisible).toTree) := by
    rw [field?_known hc (by decide), knownFields]
    cases c.journal <;> rfl
  have hjournal : field? fields "journal_path" =
      some (c.journal.map fun p => (Value.string p).toTree) := by
    rw [field?_known hc (by decide), knownFields]
    cases c.journal <;> rfl
  -- what is passed on as the other fields has none of the known ones
  have hextra : ((fields.filter fun f => !fieldNames.contains f.1).mapM fun f => do
      return (f.1, ← Value.ofTree? f.2)) = some c.extra := by
    rw [others_eq hc]
    refine mapM_map_eq_some fun m hm => ?_
    rw [Value.ofTree?_toTree (hc.isData m hm)]
    rfl
  have hpath : (c.journal.map fun p => (Value.string p).toTree).elim (some none)
      (Tree.optional? Tree.text?) = some c.journal := by
    cases hj : c.journal with
    | none => rfl
    | some p => exact optional?_toTree p
  -- no standard value is taken, for a journal that is missing stands for no journal
  refine Option.bind_eq_some_iff.2 ⟨fields, c.fields?_toTree, ?_⟩
  refine Option.bind_eq_some_iff.2 ⟨_, htimeout, Option.bind_eq_some_iff.2 ⟨_, hshell, ?_⟩⟩
  refine Option.bind_eq_some_iff.2 ⟨_, harguments, Option.bind_eq_some_iff.2 ⟨_, hvisible, ?_⟩⟩
  refine Option.bind_eq_some_iff.2 ⟨_, hjournal, Option.bind_eq_some_iff.2 ⟨_, hextra, ?_⟩⟩
  refine Option.bind_eq_some_iff.2 ⟨_, natural?_toTree hc.timeout_lt, ?_⟩
  refine Option.bind_eq_some_iff.2 ⟨_, Value.text?_toTree _, ?_⟩
  refine Option.bind_eq_some_iff.2 ⟨_, Value.texts?_toTree _, ?_⟩
  refine Option.bind_eq_some_iff.2 ⟨_, natural?_toTree hc.visible_lt, ?_⟩
  refine Option.bind_eq_some_iff.2 ⟨_, hpath, ?_⟩
  rw [Text.sortNamed_of_ascending hc.ascending]
  rfl

/-- A configuration that the nodes of a text stand for is what is read, unless it has a defect. -/
lemma read_of_tree {s : Text} {t : Tree} (ht : Tree.read s = some t) (hc : ofTree? t = some c) :
    (c.defect? = none → read s = .ok c) ∧
      ∀ d, c.defect? = some d → read s = .error (.defect d) := by
  have hread : (Tree.read s).bind ofTree? = some c := by rw [ht, Option.bind_some, hc]
  constructor
  · intro hdefect
    simp only [read, hread, hdefect]
  · intro d hdefect
    simp only [read, hread, hdefect]

/-- The nodes of a configuration do not come back from its text if one of the other fields goes as
deep as a tree may, for the mapping of the fields is around it. -/
theorem not_readsBack {m : Text × Value} (hm : m ∈ c.extra) (hdepth : 128 ≤ m.2.toTree.depth) :
    ¬c.toYaml.ReadsBack := by
  refine Value.not_readsBack ?_
  have hmem : ((Value.string m.1).toTree, m.2.toTree) ∈
      (c.knownFields ++ c.extra).map fun m => ((Value.string m.1).toTree, m.2.toTree) :=
    List.mem_map_of_mem (List.mem_append_right _ hm)
  rw [toYaml_eq, Value.toTree, Value.membersToTrees_eq, List.map_map]
  exact Nat.lt_of_le_of_lt hdepth (Tree.lt_depth_of_mem hmem none)

/-- If the text of a stored configuration is read as the nodes that were written, then it is read as
the configuration, with all fields that are known and all that are not, unless the configuration has
a defect: then the defect is what is reported. -/
theorem read_of_readsBack (hc : c.IsSound) (hback : c.toYaml.ReadsBack) :
    (c.defect? = none → read c.text = .ok c) ∧
      ∀ d, c.defect? = some d → read c.text = .error (.defect d) :=
  read_of_tree hback (ofTree?_toTree hc)

/-- A journal that is named like nothing, and fields that are not known in a mapping of their own;
and a configuration that no command can be run under. -/
theorem read_of_readsBack_keys :
    let c : Config :=
      { timeoutSeconds := 3
        shell := ['s', 'h']
        shellArguments := [['-', 'c'], []]
        maxVisible := 4
        journal := some ['~']
        extra :=
          [(['k'], .mapping [(.string ['5'], .sequence [.null, .bool true, .integer (-5)]),
            (.string [], .mapping [])]), (['t'], .string ['a', '\n', ' ', 'b'])] }
    read c.text = .ok c ∧
      read { c with timeoutSeconds := 9 }.text = .error (.defect (.longTimeout 9)) := by
  intro c
  have hdata : ∀ m ∈ c.extra, m.2.IsData := by
    rintro m hm
    obtain rfl | rfl : m = _ ∨ m = _ := by simpa [c] using hm
    · refine @Value.IsData.mapping [(['5'], _), ([], .mapping [])] (by decide) ?_
      rintro n hn
      obtain rfl | rfl : n = _ ∨ n = _ := by simpa using hn
      · refine .sequence ?_
        simp only [List.forall_mem_cons, List.not_mem_nil, false_implies, implies_true, and_true]
        exact ⟨.null, .bool true, .integer (by decide) (by decide)⟩
      · exact @Value.IsData.mapping [] (by decide) (by simp)
    · exact .string _
  have hsound : c.IsSound := ⟨by decide, by decide, by decide, by decide, hdata⟩
  have hlong : { c with timeoutSeconds := 9 }.IsSound :=
    ⟨by decide, by decide, by decide, by decide, hdata⟩
  have hback : c.toYaml.ReadsBack := by
    unfold Value.ReadsBack
    decide +kernel
  have hbackLong : { c with timeoutSeconds := 9 }.toYaml.ReadsBack := by
    unfold Value.ReadsBack
    decide +kernel
  exact ⟨(read_of_readsBack hsound hback).1 rfl, (read_of_readsBack hlong hbackLong).2 _ rfl⟩

end Config

end TemplateFill
