import TemplateFill.Proofs.Session.Lookup

/-!
# What holds of a session at every moment

Every slot of a session is consistent, and the focus is on one of the slots, if there are any.  A
session begins so, whatever its parameters say, and no move breaks it: it holds after every row of
operations (`Session.after_consistent`), and at the start of a session over the parameters of its
template as over any others.
-/

namespace TemplateFill

namespace Session

variable {s t : Session}

/-- What holds of a session at every moment. -/
structure Consistent (s : Session) : Prop where
  slots : ∀ x ∈ s.slots, x.Consistent
  focus : s.focus < s.size ∨ s.size = 0 ∧ s.focus = 0

lemma consistent_withParameters (n : Nat) (template : Text) (ps : List Parameter) :
    (withParameters n template ps).Consistent := by
  constructor
  · intro x hx
    obtain ⟨p, -, rfl⟩ := List.mem_map.1 hx
    exact Slot.consistent_ofParameter p
  · rcases Nat.eq_zero_or_pos (withParameters n template ps).size with h | h
    · exact Or.inr ⟨h, rfl⟩
    · exact Or.inl h

lemma Consistent.of_moves (hs : s.Consistent) (h : Moves s t) : t.Consistent := by
  cases h with
  | slot hx hy =>
    rename_i i x y
    constructor
    · intro z hz
      rcases List.mem_or_eq_of_mem_set hz with hz | rfl
      · exact hs.slots z hz
      · exact (hs.slots x (List.mem_of_getElem? hx)).of_becomes hy
    · simpa using hs.focus
  | shift d =>
    by_cases h : s.slots.isEmpty
    · rw [shift_of_nil h]
      exact hs
    · rw [shift_of_ne h]
      exact ⟨hs.slots, Or.inl (d.step_lt s.focus (size_pos h))⟩

lemma Consistent.after (hs : s.Consistent) (ops : List Operation) : (s.after ops).Consistent :=
  after_preserves (fun hmove h => h.of_moves hmove) hs ops

/-- A session of which something has been asked since it began. -/
def Reachable (s : Session) : Prop :=
  ∃ n template ps ops, s = (withParameters n template ps).after ops

lemma Reachable.consistent (hs : s.Reachable) : s.Consistent := by
  obtain ⟨n, template, ps, ops, rfl⟩ := hs
  exact (consistent_withParameters n template ps).after ops

/-- Whatever the parameters of a session are, and whatever is asked of it, it stays consistent, it
keeps its number, its template and its parameters, and no operation on the way looks for an option
that is not there or takes a step through a list without options. -/
theorem after_consistent (n : Nat) (template : Text) (ps : List Parameter)
    (ops : List Operation) :
    let s := withParameters n template ps
    (s.after ops).Consistent ∧ (s.after ops).id = n ∧ (s.after ops).template = template ∧
      (s.after ops).size = ps.length ∧ (s.after ops).parameters = ps ∧
      s.traceChecked ops = some (s.trace ops) := by
  intro s
  have hframe : SameFrame s (s.after ops) := after_sameFrame s ops
  have hps : (s.after ops).parameters = ps := by
    rw [hframe.parameters_eq, parameters_withParameters]
  have hsize : (s.after ops).size = ps.length := by rw [← length_parameters, hps]
  exact ⟨(consistent_withParameters n template ps).after ops, hframe.id_eq, hframe.template_eq,
    hsize, hps, traceChecked_eq s ops⟩

end Session

end TemplateFill
