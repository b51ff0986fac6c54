import Mathlib.Data.List.Basic
import TemplateFill.Proofs.Json.RoundTrip
import TemplateFill.Session.Basic
import TemplateFill.Template.Stored.Json

/-!
# Parameters that come back from where they are stored

A parameter is stored as an object from which its empty fields are left out, and whose members are
not sorted.  The members that are there are found by their names (`Parameter.fields?_toSource`), and
those that are not stand for what was empty, so that the parameter comes back whatever its texts
hold and whichever of them are empty (`Parameter.ofSource?_toJson`).

`Parameter.stored_roundTrip` says so of rows of parameters, on one line and over several, and of
the sessions that are started from a stored row.
-/

namespace TemplateFill

open Json

/-- The words for kinds are told apart. -/
lemma Kind.ofLabel?_label (k : Kind) : Kind.ofLabel? k.label = some k := by
  cases k <;> rfl

namespace Parameter

/-! ### What is written -/

lemma isWhole_toJson (p : Parameter) : p.toJson.IsWhole := by
  refine .object fun m hm => ?_
  have hoptions : (Json.array (p.options.map .string)).IsWhole :=
    .array (List.forall_mem_map.2 fun o _ => .string o)
  simp only [List.mem_cons, List.mem_append] at hm
  rcases hm with rfl | rfl | (hm | hm) | hm
  · exact .string _
  · exact .string _
  · split at hm
    · exact absurd hm (by simp [memberOf])
    · obtain rfl := List.mem_singleton.1 hm
      exact .string _
  · split at hm
    · exact absurd hm (by simp [memberOf])
    · obtain rfl := List.mem_singleton.1 hm
      exact hoptions
  · split at hm
    · exact absurd hm (by simp [memberOf])
    · obtain rfl := List.mem_singleton.1 hm
      exact .string _

lemma isWhole_listToJson (ps : List Parameter) : (listToJson ps).IsWhole :=
  .array (List.forall_mem_map.2 fun p _ => isWhole_toJson p)

/-! ### What is read -/

/-- The members of a stored parameter are found by their names, as far as they are there. -/
lemma fields?_toSource (p : Parameter) :
    p.toJson.toSource.fields? ["name", "type", "default", "options", "dynamic_cmd"] =
      some [some (.atom (some (.string p.name))), some (.atom (some (.string p.kind.label))),
        if p.default.isEmpty then none else some (.atom (some (.string p.default))),
        if p.options.isEmpty then none
          else some (.array (p.options.map fun o => .atom (some (.string o)))),
        if p.command.isEmpty then none else some (.atom (some (.string p.command)))] := by
  have hoptions : (Json.array (p.options.map .string)).toSource =
      .array (p.options.map fun o => .atom (some (.string o))) := by
    rw [toSource, itemsToSource_eq, List.map_map]
    rfl
  rw [toJson, ← hoptions]
  split_ifs <;> rfl

/-- A text that is left out if it is empty comes back. -/
lemma readOr_text (s : Text) :
    readOr [] Source.text? (if s.isEmpty then none else some (.atom (some (.string s)))) =
      some s := by
  cases s <;> rfl

/-- Options that are left out if there are none come back. -/
lemma readOr_options (os : List Text) :
    readOr [] readOptionTexts (if os.isEmpty then none
      else some (.array (os.map fun o => .atom (some (.string o))))) = some os := by
  have hread : readOptionTexts (.array (os.map fun o => .atom (some (.string o)))) = some os :=
    mapM_map_eq_some fun o _ => rfl
  cases os with
  | nil => rfl
  | cons o os => exact hread

/-- A parameter is read back from the object in which it is stored. -/
theorem ofSource?_toJson (p : Parameter) : ofSource? p.toJson.toSource = some p := by
  have hkind : readOr .text readKind (some (.atom (some (.string p.kind.label)))) = some p.kind :=
    Kind.ofLabel?_label p.kind
  have hname : (Source.atom (some (.string p.name))).text? = some p.name := rfl
  rw [ofSource?, fields?_toSource]
  simp only [Option.bind_eq_bind, Option.bind_some, hname, hkind, readOr_text, readOr_options]
  rfl

lemma listOfSource?_listToJson (ps : List Parameter) :
    listOfSource? (listToJson ps).toSource = some ps := by
  rw [listToJson, toSource, itemsToSource_eq, List.map_map]
  exact mapM_map_eq_some fun p _ => ofSource?_toJson p

/-- A text that spells the tokens of stored parameters holds these parameters. -/
lemma readJson_of_spells {s : Text} {ps : List Parameter} (h : Spells s (listToJson ps).toTokens) :
    readJson s = some ps := by
  rw [readJson, read_of_spells h, Option.bind_eq_bind, Option.bind_some, listOfSource?_listToJson]

lemma readJson_compact (ps : List Parameter) : readJson (listToJson ps).compact = some ps :=
  readJson_of_spells (spells_compact (isWhole_listToJson ps))

lemma readJson_pretty (ps : List Parameter) : readJson (listToJson ps).pretty = some ps :=
  readJson_of_spells (spells_pretty (isWhole_listToJson ps) 0)

/-- The line's end behind what is written is a blank. -/
lemma readJson_writeJson (ps : List Parameter) : readJson (writeJson ps) = some ps := by
  have hpretty : Spells (listToJson ps).pretty (listToJson ps).toTokens :=
    spells_pretty (isWhole_listToJson ps) 0
  have hblank : ∀ c ∈ ['\n'], isSpace c = true := List.forall_mem_singleton.2 rfl
  refine readJson_of_spells ?_
  have hspells := hpretty.append (spells_nil.blanks hblank) (stops_blanks hblank)
  rw [List.append_nil, List.append_nil] at hspells
  exact hspells

end Parameter

/-- A session of another number has the same jobs, under its own number. -/
lemma Session.jobs_with_id (s : Session) (n : Nat) :
    ({ s with id := n } : Session).jobs = s.jobs.map fun j => { j with session := n } := by
  rw [jobs, jobs, List.map_filterMap]
  refine List.filterMap_congr ?_
  rintro ⟨x, i⟩ -
  by_cases hk : x.parameter.kind = .dynamic <;> simp [hk]

/-- Parameters come back from the JSON in which they are stored, whatever they are: on one line, over
several, and as they are shown for a template.  So a session that is started from the stored
parameters of a template is the one that is started from the template itself, under another number,
and has the same jobs under that number. -/
theorem Parameter.stored_roundTrip (ps : List Parameter) (template : Text) (n m : Nat) :
    (readJson (listToJson ps).compact = some ps ∧ readJson (listToJson ps).pretty = some ps) ∧
      readJson (writeJson (parameters template)) = some (parameters template) ∧
      ∃ stored, readJson (writeJson (parameters template)) = some stored ∧
        Session.withParameters m template stored = { Session.start n template with id := m } ∧
        (Session.withParameters m template stored).jobs =
          (Session.start n template).jobs.map fun j => { j with session := m } := by
  have hstored : readJson (writeJson (parameters template)) = some (parameters template) :=
    readJson_writeJson _
  have hsession : Session.withParameters m template (parameters template) =
      { Session.start n template with id := m } := rfl
  refine ⟨⟨readJson_compact ps, readJson_pretty ps⟩, hstored, _, hstored, hsession, ?_⟩
  rw [hsession, Session.jobs_with_id]

/-- Parameters with all fields and with none, of which one has texts with quotes, line ends and a
character beyond sixteen bits. -/
example :
    let ps : List Parameter :=
      [⟨[], .text, [], [], []⟩, ⟨"a\"\\".toList, .choice, "\n".toList, [[], "😀".toList], ['x']⟩]
    Parameter.readJson (Parameter.writeJson ps) = some ps := by
  decide +kernel

end TemplateFill
