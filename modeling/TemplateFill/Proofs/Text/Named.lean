import Mathlib.Data.List.Induction
import TemplateFill.Text.Named

/-!
# Rows that come back

A row is read back from what is written for it, if each of its members is (`mapM_map_eq_some`).
Members whose names ascend are left as they are by sorting (`Text.sortNamed_of_ascending`).
-/

namespace TemplateFill

/-- What is read one by one is read in a row. -/
lemma mapM_map_eq_map {α β γ : Type} {write : α → β} {read : β → Option γ} {f : α → γ}
    {as : List α} (h : ∀ a ∈ as, read (write a) = some (f a)) :
    (as.map write).mapM read = some (as.map f) := by
  induction as with
  | nil => rfl
  | cons a as ih =>
    rw [List.forall_mem_cons] at h
    simp [List.mapM_cons, h.1, ih h.2]

/-- What is read back one by one is read back in a row. -/
lemma mapM_map_eq_some {α β : Type} {write : α → β} {read : β → Option α} {as : List α}
    (h : ∀ a ∈ as, read (write a) = some a) : (as.map write).mapM read = some as := by
  rw [mapM_map_eq_map (f := id) h, List.map_id]

namespace Text

variable {α : Type}

lemma order_of_gt {a b : Text} (h : a < b) : order b a = .gt := by
  have hlt : ¬b < a := List.lt_asymm h
  have hne : b ≠ a := by
    rintro rfl
    exact hlt h
  rw [order, compareOfLessAndEq, if_neg hlt, if_neg hne]

/-- A member whose name comes last is put at the end. -/
lemma insertNamed_of_forall_lt {name : Text} (a : α) {members : List (Text × α)}
    (h : ∀ m ∈ members, m.1 < name) : insertNamed name a members = members ++ [(name, a)] := by
  induction members with
  | nil => rfl
  | cons m members ih =>
    rw [List.forall_mem_cons] at h
    rw [insertNamed, order_of_gt h.1, ih h.2]
    rfl

/-- Members whose names ascend are sorted. -/
theorem sortNamed_of_ascending {members : List (Text × α)}
    (h : (members.map Prod.fst).Pairwise (· < ·)) : sortNamed members = members := by
  induction members using List.reverseRecOn with
  | nil => rfl
  | append_singleton members m ih =>
    rw [List.map_append, List.pairwise_append] at h
    obtain ⟨hmembers, -, hlast⟩ := h
    have hlt : ∀ x ∈ members, x.1 < m.1 :=
      fun x hx => hlast x.1 (List.mem_map_of_mem hx) m.1 (by simp)
    have hsort : sortNamed (members ++ [m]) = insertNamed m.1 m.2 (sortNamed members) := by
      simp [sortNamed]
    rw [hsort, ih hmembers, insertNamed_of_forall_lt _ hlt]

end Text

end TemplateFill
