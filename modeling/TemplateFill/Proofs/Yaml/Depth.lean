import TemplateFill.Proofs.Yaml.Value

/-!
# How deep a document goes

A document is expanded node by node up to a depth, and what lies deeper is unusable
(`Document.depth_expand_le`).  So no tree that is read goes deeper than 128 sequences and mappings
(`Tree.depth_le_of_read`), and a value that does is not read back from its text
(`Value.not_readsBack`).  A value that goes as deep as that may be.
-/

namespace TemplateFill

namespace Yaml

namespace Tree

mutual

/-- The number of sequences and mappings around the innermost place of a tree. -/
def depth : Tree → Nat
  | .sequence _ ts => itemsDepth ts + 1
  | .mapping _ ms => membersDepth ms + 1
  | .scalar .. | .unusable => 0

/-- The greatest depth of a list of items. -/
def itemsDepth : List Tree → Nat
  | [] => 0
  | t :: ts => max (depth t) (itemsDepth ts)

/-- The greatest depth of a list of members. -/
def membersDepth : List (Tree × Tree) → Nat
  | [] => 0
  | m :: ms => max (memberDepth m) (membersDepth ms)

/-- The greater depth of a key and its value. -/
def memberDepth : Tree × Tree → Nat
  | (k, t) => max (depth k) (depth t)

end

variable {n : Nat}

lemma itemsDepth_le_iff {ts : List Tree} : itemsDepth ts ≤ n ↔ ∀ t ∈ ts, t.depth ≤ n := by
  induction ts with
  | nil => simp [itemsDepth]
  | cons t ts ih => rw [itemsDepth, Nat.max_le, ih, List.forall_mem_cons]

lemma memberDepth_le_iff {m : Tree × Tree} :
    memberDepth m ≤ n ↔ m.1.depth ≤ n ∧ m.2.depth ≤ n := by
  obtain ⟨k, t⟩ := m
  exact Nat.max_le

lemma membersDepth_le_iff {ms : List (Tree × Tree)} :
    membersDepth ms ≤ n ↔ ∀ m ∈ ms, m.1.depth ≤ n ∧ m.2.depth ≤ n := by
  induction ms with
  | nil => simp [membersDepth]
  | cons m ms ih => rw [membersDepth, Nat.max_le, ih, List.forall_mem_cons, memberDepth_le_iff]

lemma lt_depth_of_mem {m : Tree × Tree} {ms : List (Tree × Tree)} (h : m ∈ ms) (tag : Option Text) :
    m.2.depth < (mapping tag ms).depth := by
  have hmembers := membersDepth_le_iff.1 (Nat.le_refl (membersDepth ms))
  exact Nat.lt_succ_of_le (hmembers m h).2

end Tree

/-- What holds of each result, whatever is left before it, holds of the results of a row. -/
lemma forall_mem_run_mapM {α β σ : Type} {f : α → StateM σ β} {P : β → Prop}
    (h : ∀ a s, P ((f a).run s).1) (as : List α) (s : σ) : ∀ b ∈ ((as.mapM f).run s).1, P b := by
  induction as generalizing s with
  | nil => exact fun b hb => absurd hb List.not_mem_nil
  | cons a as ih =>
    rw [List.mapM_cons]
    exact List.forall_mem_cons.2 ⟨h a s, ih _⟩

namespace Document

/-- A node goes no deeper than it is expanded, however many aliases are left. -/
lemma depth_expand_le (d : Document) (depth : Nat) (n : Node) (left : Nat) :
    ((d.expand depth n).run left).1.depth ≤ depth := by
  induction depth generalizing n left with
  | zero =>
    rw [expand, StateT.run_bind]
    obtain ⟨found, left'⟩ := (d.follow n).run left
    rcases found with _ | (_ | _ | _ | _) <;> exact Nat.zero_le _
  | succ depth ih =>
    rw [expand, StateT.run_bind]
    obtain ⟨found, left'⟩ := (d.follow n).run left
    rcases found with _ | (_ | ⟨tag, items⟩ | ⟨tag, members⟩ | _)
    · exact Nat.zero_le _
    · exact Nat.zero_le _
    · have hitems := forall_mem_run_mapM (P := (Tree.depth · ≤ depth)) ih items left'
      exact Nat.succ_le_succ (Tree.itemsDepth_le_iff.2 hitems)
    · have hmembers := forall_mem_run_mapM
        (f := fun m : Node × Node => do return (← d.expand depth m.1, ← d.expand depth m.2))
        (P := fun m : Tree × Tree => m.1.depth ≤ depth ∧ m.2.depth ≤ depth)
        (fun m left => ⟨ih m.1 left, ih m.2 _⟩) members left'
      exact Nat.succ_le_succ (Tree.membersDepth_le_iff.2 hmembers)
    · exact Nat.zero_le _

end Document

/-- What is read from a text goes at most 128 sequences and mappings deep. -/
theorem Tree.depth_le_of_read {s : Text} {t : Tree} (h : Tree.read s = some t) : t.depth ≤ 128 := by
  simp only [Tree.read, Option.bind_eq_bind, Option.bind_eq_some_iff] at h
  obtain ⟨ts, -, es, -, d, -, hd⟩ := h
  obtain rfl := Option.some.inj hd
  exact d.depth_expand_le 128 d.root _

/-- A value that goes deeper than that is not read back from its text. -/
theorem Value.not_readsBack {v : Value} (h : 128 < v.toTree.depth) : ¬v.ReadsBack := by
  intro hback
  have hdepth := Tree.depth_le_of_read hback
  omega

/-- As many sequences as there may be around each other. -/
example : (Nat.repeat (fun v => Value.sequence [v]) 127 (.sequence [])).ReadsBack := by
  unfold Value.ReadsBack
  decide +kernel

end Yaml

end TemplateFill
