import TemplateFill.Yaml.Node
import TemplateFill.Yaml.Plain

/-!
# Documents without aliases

A tree is what a document stands for once every alias is replaced by its node.  So that a short
text cannot stand for an endless tree, a tree goes at most 128 sequences and mappings deep, and at
most a hundred aliases for each event of the document are replaced.  What lies beyond these limits
is *unusable*: nothing can be read from it, but a tree may be read in which nobody looks at it.

`Tree.text?`, `Tree.items?` and `Tree.members?` read a tree as what a reader expects there.  A node
that is left out counts as a sequence without items and as a mapping without members.
-/

namespace TemplateFill

namespace Yaml

/-- The tag of a type of the YAML core. -/
def coreTag (name : Text) : Text := "tag:yaml.org,2002:" ++ name

/-- A document without aliases. -/
inductive Tree where
  | scalar (tag : Option Text) (text : Text) (style : Style)
  | sequence (tag : Option Text) (items : List Tree)
  | mapping (tag : Option Text) (members : List (Tree × Tree))
  | unusable
  deriving Repr, Inhabited

namespace Tree

mutual

/-- Whether two trees are equal. -/
def decEq : (t u : Tree) → Decidable (t = u)
  | .scalar a s x, .scalar b t y =>
    decidable_of_iff (a = b ∧ s = t ∧ x = y) (by rw [scalar.injEq])
  | .sequence a ts, .sequence b us =>
    let _ := decEqItems ts us
    decidable_of_iff (a = b ∧ ts = us) (by rw [sequence.injEq])
  | .mapping a ms, .mapping b ns =>
    let _ := decEqMembers ms ns
    decidable_of_iff (a = b ∧ ms = ns) (by rw [mapping.injEq])
  | .unusable, .unusable => isTrue rfl
  | .scalar .., .sequence .. | .scalar .., .mapping .. | .scalar .., .unusable
  | .sequence .., .scalar .. | .sequence .., .mapping .. | .sequence .., .unusable
  | .mapping .., .scalar .. | .mapping .., .sequence .. | .mapping .., .unusable
  | .unusable, .scalar .. | .unusable, .sequence .. | .unusable, .mapping .. => isFalse nofun

/-- Whether two rows of trees are equal. -/
def decEqItems : (ts us : List Tree) → Decidable (ts = us)
  | [], [] => isTrue rfl
  | t :: ts, u :: us =>
    let _ := decEq t u
    let _ := decEqItems ts us
    decidable_of_iff (t = u ∧ ts = us) (by rw [List.cons.injEq])
  | [], _ :: _ | _ :: _, [] => isFalse nofun

/-- Whether the members of two mappings are equal. -/
def decEqMembers : (ms ns : List (Tree × Tree)) → Decidable (ms = ns)
  | [], [] => isTrue rfl
  | m :: ms, n :: ns =>
    let _ := decEqMember m n
    let _ := decEqMembers ms ns
    decidable_of_iff (m = n ∧ ms = ns) (by rw [List.cons.injEq])
  | [], _ :: _ | _ :: _, [] => isFalse nofun

/-- Whether two members are equal. -/
def decEqMember : (m n : Tree × Tree) → Decidable (m = n)
  | (k, t), (l, u) =>
    let _ := decEq k l
    let _ := decEq t u
    decidable_of_iff (k = l ∧ t = u) (by rw [Prod.mk.injEq])

end

instance : DecidableEq Tree := decEq

end Tree

namespace Document

/-- The node that an alias stands for, while there are aliases left that may be replaced. -/
def follow (d : Document) : Node → StateM Nat (Option Node)
  | .alias number => do
    match ← get with
    | 0 => return none
    | left + 1 =>
      set left
      return d.marked.lookup number
  | n => return some n

/-- The tree of a node that goes at most `depth` sequences and mappings deep. -/
def expand (d : Document) : Nat → Node → StateM Nat Tree
  | 0, n => do
    match ← d.follow n with
    | some (.scalar tag text style) => return .scalar tag text style
    | _ => return .unusable
  | depth + 1, n => do
    match ← d.follow n with
    | some (.scalar tag text style) => return .scalar tag text style
    | some (.sequence tag items) => return .sequence tag (← items.mapM (d.expand depth))
    | some (.mapping tag members) =>
      return .mapping tag
        (← members.mapM fun m => do return (← d.expand depth m.1, ← d.expand depth m.2))
    | _ => return .unusable

/-- The tree of a document. -/
def tree (d : Document) : Tree := ((d.expand 128 d.root).run (100 * d.size)).1

end Document

namespace Tree

/-- The tree that a YAML text holds. -/
def read (s : Text) : Option Tree := do
  let ts ← tokens? s
  let es ← events? ts
  let d ← Document.ofEvents? es
  return d.tree

/-- Whether the node is left out. -/
def isMissing : Tree → Bool
  | .scalar _ [] .plain => true
  | _ => false

/-- The text of a scalar. -/
def text? : Tree → Option Text
  | .scalar _ t _ => some t
  | _ => none

/-- The items of a sequence. -/
def items? : Tree → Option (List Tree)
  | .sequence _ ts => some ts
  | t => if t.isMissing then some [] else none

/-- The members of a mapping. -/
def members? : Tree → Option (List (Tree × Tree))
  | .mapping _ ms => some ms
  | t => if t.isMissing then some [] else none

/-- The texts of the items of a sequence. -/
def texts? (t : Tree) : Option (List Text) := do (← t.items?).mapM text?

/-- A whole number of at most 64 bits without a minus sign. -/
def natural? : Tree → Option Nat
  | .scalar tag s style => do
    if style = .plain ∨ (style = .literal ∧ tag = some (coreTag "int")) then
      let n ← Yaml.natural? s
      if n < Nat.pow 2 64 then some n else none
    else none
  | _ => none

/-- What a node holds, or nothing if it is a plain scalar that stands for nothing. -/
def optional? {α : Type} (read : Tree → Option α) : Tree → Option (Option α)
  | .scalar none s .plain =>
    if s.isEmpty ∨ isNullWord s then some none else (read (.scalar none s .plain)).map some
  | .scalar (some tag) s .plain =>
    if tag = coreTag "null" then (if isNullWord s then some none else none)
    else (read (.scalar (some tag) s .plain)).map some
  | t => (read t).map some

/-- The members of a mapping by the texts of their keys. -/
def fields? (t : Tree) : Option (List (Text × Tree)) := do
  (← t.members?).mapM fun m => do return (← m.1.text?, m.2)

/-- The values of a record's fields in order, where they are there: a sequence holds them in this
order, perhaps without the last ones, and a mapping holds them under their names.  No name may come
twice, and members under other names are passed over. -/
def record? (names : List Text) : Tree → Option (List (Option Tree))
  | .sequence _ ts =>
    if ts.length ≤ names.length then
      some (ts.map some ++ List.replicate (names.length - ts.length) none)
    else none
  | t => do
    let fs ← t.fields?
    names.mapM fun n =>
      match fs.filter (·.1 = n) with
      | [] => some none
      | [f] => some (some f.2)
      | _ => none

end Tree

end Yaml

end TemplateFill
