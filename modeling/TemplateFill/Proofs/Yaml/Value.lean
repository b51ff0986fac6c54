import TemplateFill.Proofs.Text.Named
import TemplateFill.Proofs.Yaml.Plain
import TemplateFill.Yaml.Writer

/-!
# The nodes of a value

A value is written node by node, and every scalar in a style of its own.  `Value.toTree` is the tree
of these nodes.  The tree stands for the value again, whatever its strings hold, if the value is
*data*: it holds no floating point number, its whole numbers fit into 64 bits, and the keys of its
mappings are strings that differ from each other (`Value.ofTree?_toTree`).  A string is written plain
only if a plain scalar of its text is not taken for something else.
-/

namespace TemplateFill

namespace Yaml

namespace Value

/-! ### Data -/

/-- A value that holds no floating point numbers and no number of more than 64 bits, and of which
all keys are strings. -/
inductive IsData : Value → Prop
  | null : IsData .null
  | bool (b : Bool) : IsData (.bool b)
  | integer {i : Int} (hlow : -2 ^ 63 ≤ i) (hhigh : i < 2 ^ 64) : IsData (.integer i)
  | string (s : Text) : IsData (.string s)
  | sequence {vs : List Value} (h : ∀ v ∈ vs, IsData v) : IsData (.sequence vs)
  | mapping {ms : List (Text × Value)} (distinct : (ms.map Prod.fst).Nodup)
      (h : ∀ m ∈ ms, IsData m.2) : IsData (.mapping (ms.map fun m => (.string m.1, m.2)))

/-! ### Nodes -/

mutual

/-- The nodes that are written for a value. -/
def toTree : Value → Tree
  | .null => .scalar none "null" .plain
  | .bool true => .scalar none "true" .plain
  | .bool false => .scalar none "false" .plain
  | .integer i => .scalar none (Text.ofInt i) .plain
  | .real r => .scalar none r.written .plain
  | .string s => .scalar none s (styleOf s)
  | .sequence vs => .sequence none (itemsToTrees vs)
  | .mapping ms => .mapping none (membersToTrees ms)

/-- The nodes of the items of a sequence. -/
def itemsToTrees : List Value → List Tree
  | [] => []
  | v :: vs => toTree v :: itemsToTrees vs

/-- The nodes of the members of a mapping. -/
def membersToTrees : List (Value × Value) → List (Tree × Tree)
  | [] => []
  | m :: ms => memberToTrees m :: membersToTrees ms

/-- The nodes of one member of a mapping. -/
def memberToTrees : Value × Value → Tree × Tree
  | (k, v) => (toTree k, toTree v)

end

lemma itemsToTrees_eq (vs : List Value) : itemsToTrees vs = vs.map toTree := by
  induction vs with
  | nil => rfl
  | cons v vs ih => rw [itemsToTrees, ih, List.map_cons]

lemma membersToTrees_eq (ms : List (Value × Value)) :
    membersToTrees ms = ms.map fun m => (m.1.toTree, m.2.toTree) := by
  induction ms with
  | nil => rfl
  | cons m ms ih => rw [membersToTrees, ih, List.map_cons, memberToTrees]

lemma ofItems?_eq (ts : List Tree) : ofItems? ts = ts.mapM ofTree? := by
  induction ts with
  | nil => rfl
  | cons t ts ih => rw [ofItems?, ih, List.mapM_cons]

lemma ofMembers?_eq (ms : List (Tree × Tree)) : ofMembers? ms = ms.mapM ofMember? := by
  induction ms with
  | nil => rfl
  | cons m ms ih => rw [ofMembers?, ih, List.mapM_cons]

/-! ### What the nodes stand for -/

/-- A string that is written plain is not taken for something else. -/
lemma readsAsText_of_styleOf {s : Text} (h : styleOf s = .plain) : Meaning.ofPlain s = .text := by
  unfold styleOf at h
  split at h
  · split at h <;> exact absurd h (by simp)
  · split at h
    · rename_i hplain
      simp only [readsAsText, Bool.and_eq_true, decide_eq_true_eq] at hplain
      exact hplain.1.1
    · split at h <;> exact absurd h (by simp)

lemma ofTree?_string (s : Text) : ofTree? (.scalar none s (styleOf s)) = some (.string s) := by
  have hforeign : isForeign none = false := rfl
  rw [ofTree?, hforeign]
  by_cases h : styleOf s = .plain
  · simp [ofScalar?, h, ofPlain?, readsAsText_of_styleOf h]
  · simp [ofScalar?, h]

lemma ofTree?_integer {i : Int} (hlow : -2 ^ 63 ≤ i) (hhigh : i < 2 ^ 64) :
    ofTree? (.scalar none (Text.ofInt i) .plain) = some (.integer i) := by
  have hforeign : isForeign none = false := rfl
  have hpow : Nat.pow 2 63 = 2 ^ 63 ∧ Nat.pow 2 64 = 2 ^ 64 := by decide
  rw [ofTree?, hforeign]
  simp only [ofScalar?, ofPlain?, Meaning.ofPlain_ofInt hlow hhigh, ofInteger?, if_true]
  rw [if_neg (by simp), if_pos (by omega)]

lemma keysDiffer_of_nodup {ms : List (Text × Value)} (h : (ms.map Prod.fst).Nodup) :
    keysDiffer (ms.map fun m => (.string m.1, m.2)) = true := by
  induction ms with
  | nil => rfl
  | cons m ms ih =>
    rw [List.map_cons, List.nodup_cons] at h
    obtain ⟨hm, hms⟩ := h
    have hany : (ms.map fun m => (Value.string m.1, m.2)).any
        (fun n => same (.string m.1) n.1) = false := by
      rw [List.any_eq_false]
      intro x hx
      obtain ⟨n, hn, rfl⟩ := List.mem_map.1 hx
      have hne : m.1 ≠ n.1 := fun heq => hm (heq ▸ List.mem_map_of_mem hn)
      simpa [same] using hne
    rw [List.map_cons, keysDiffer, hany, ih hms]
    rfl

/-- The nodes of data stand for the data. -/
theorem ofTree?_toTree {v : Value} (h : v.IsData) : ofTree? v.toTree = some v := by
  induction h with
  | null => rfl
  | bool b => cases b <;> rfl
  | integer hlow hhigh => exact ofTree?_integer hlow hhigh
  | string s => exact ofTree?_string s
  | sequence _ ih =>
    rw [toTree, ofTree?, itemsToTrees_eq, ofItems?_eq, mapM_map_eq_some ih]
    rfl
  | @mapping ms distinct _ ih =>
    -- the keys are read like all strings, and still differ then
    have hmember : ∀ m ∈ ms, ofMember? ((string m.1).toTree, m.2.toTree) = some (.string m.1, m.2) := by
      intro m hm
      rw [ofMember?, ih m hm, toTree, ofTree?_string]
      rfl
    have hmembers : ofMembers? (membersToTrees (ms.map fun m => (string m.1, m.2))) =
        some (ms.map fun m => (string m.1, m.2)) := by
      rw [membersToTrees_eq, List.map_map, ofMembers?_eq]
      exact mapM_map_eq_map hmember
    rw [toTree, ofTree?, hmembers, Option.bind_some, keysDiffer_of_nodup distinct]
    rfl

/-- The nodes of a string hold its text. -/
lemma text?_toTree (s : Text) : (string s).toTree.text? = some s := by
  rw [toTree]
  rfl

lemma texts?_toTree (ss : List Text) : (sequence (ss.map string)).toTree.texts? = some ss := by
  rw [toTree, itemsToTrees_eq, List.map_map]
  exact mapM_map_eq_some fun s _ => text?_toTree s

/-- The text that is written for the value is read as the nodes that were written.  The fields of a
record are read from nodes, so their values alone would not do.  It fails for every value that goes
more than 128 sequences and mappings deep (`Value.not_readsBack`). -/
def ReadsBack (v : Value) : Prop := Tree.read v.text = some v.toTree

/-- So data are read as they were written. -/
theorem read_text {v : Value} (hv : v.IsData) (h : v.ReadsBack) :
    (Tree.read v.text).bind ofTree? = some v := by
  rw [h, Option.bind_some, ofTree?_toTree hv]

end Value

end Yaml

end TemplateFill
