import Mathlib.Tactic.Common
import TemplateFill.Session.Slot

/-!
# What becomes of a slot

A slot changes in two ways: the outcome of its command arrives, or it is edited.  What either of
them can do is said once, in `Slot.settle_cases` and `Slot.edit_cases`, and what every later proof
knows of a change comes from there.

* `Slot.Consistent` holds of a slot at every moment: the kind of its parameter fixes the stages it
  can be in, and its value is the option under its cursor wherever it has a list of options.
* `Slot.Consistent.of_becomes`: no change of a slot breaks that.
-/

namespace TemplateFill

lemma Parameter.defaultIndex?_lt {p : Parameter} {os : List Text} {i : Nat}
    (h : p.defaultIndex? os = some i) : i < os.length := by
  unfold Parameter.defaultIndex? at h
  split at h
  · obtain ⟨hi, -⟩ := List.findIdx?_eq_some_iff_getElem.1 h
    exact hi
  · exact absurd h (by simp)

lemma Parameter.defaultIndex?_getD_lt (p : Parameter) {os : List Text} (h : os ≠ []) :
    (p.defaultIndex? os).getD 0 < os.length := by
  cases hi : p.defaultIndex? os with
  | none => simpa using List.length_pos_iff.2 h
  | some i => exact Parameter.defaultIndex?_lt hi

namespace Slot

variable {s t : Slot}

/-! ### The outcome of the command -/

/-- The slot after its command has failed: its value is the default. -/
def fail (s : Slot) (why : Failure) : Slot :=
  { s with stage := .failed why, value := s.parameter.default }

/-- The slot after its command has printed options, with one of them chosen. -/
def resolve (s : Slot) (os : List Text) (place : Fin os.length) : Slot :=
  { s with stage := .resolved os, value := os.get place, cursor := place }

lemma settle_of_ne (h : s.stage ≠ .loading) (o : Outcome) : s.settle o = none := by
  simp [settle, h]

lemma settle_failed (h : s.stage = .loading) (why : Failure) :
    s.settle (.failed why) = some (s.fail why) := by
  simp [settle, h, fail]

lemma settle_nil (h : s.stage = .loading) : s.settle (.options []) = some (s.fail .emptyOutput) := by
  simp [settle, h, fail]

lemma settle_options (h : s.stage = .loading) {os : List Text} (hos : os ≠ []) :
    s.settle (.options os) =
      some (s.resolve os ⟨_, s.parameter.defaultIndex?_getD_lt hos⟩) := by
  have hlt := s.parameter.defaultIndex?_getD_lt hos
  obtain ⟨o, os, rfl⟩ := List.exists_cons_of_ne_nil hos
  simp only [settle, h, ne_eq, not_true_eq_false, if_false, resolve, Option.some.injEq]
  simp [List.getD_eq_getElem?_getD, List.getElem?_eq_getElem hlt]

/-- A slot settles only while it waits, and then either fails or gets a list of options. -/
lemma settle_cases {o : Outcome} (h : s.settle o = some t) :
    s.stage = .loading ∧
      ((∃ why, t = s.fail why) ∨ ∃ os, ∃ place : Fin os.length, t = s.resolve os place) := by
  by_cases hs : s.stage = .loading
  · refine ⟨hs, ?_⟩
    rcases o with os | why
    · by_cases hos : os = []
      · subst hos
        rw [settle_nil hs] at h
        exact Or.inl ⟨_, (Option.some.inj h).symm⟩
      · rw [settle_options hs hos] at h
        exact Or.inr ⟨os, _, (Option.some.inj h).symm⟩
    · rw [settle_failed hs] at h
      exact Or.inl ⟨why, (Option.some.inj h).symm⟩
  · rw [settle_of_ne hs] at h
    exact absurd h (by simp)

/-- A slot takes an outcome exactly while it waits, whatever the outcome is. -/
lemma isSome_settle (s : Slot) (o : Outcome) :
    (s.settle o).isSome = decide (s.stage = .loading) := by
  by_cases hs : s.stage = .loading
  · rcases o with os | why
    · by_cases hos : os = []
      · simp [hos, settle_nil hs, hs]
      · simp [settle_options hs hos, hs]
    · simp [settle_failed hs, hs]
  · simp [settle_of_ne hs, hs]

/-! ### Edits -/

lemma options?_of_resolved {os : List Text} (h : s.stage = .resolved os) : s.options? = some os := by
  simp [options?, h]

lemma options?_of_ne (h : ∀ os, s.stage ≠ .resolved os) :
    s.options? = if s.parameter.kind = .choice then some s.parameter.options else none := by
  unfold options?
  split
  · rename_i os hos
    exact absurd hos (h os)
  · rfl

/-- A list of options is one that the command has printed or one that the template gives. -/
lemma options?_cases {os : List Text} (h : s.options? = some os) :
    s.stage = .resolved os ∨
      ((∀ os, s.stage ≠ .resolved os) ∧ s.parameter.kind = .choice ∧ s.parameter.options = os) := by
  by_cases hs : ∃ os, s.stage = .resolved os
  · obtain ⟨os', hs⟩ := hs
    rw [options?_of_resolved hs] at h
    obtain rfl := Option.some.inj h
    exact Or.inl hs
  · have hs' : ∀ os, s.stage ≠ .resolved os := fun os h => hs ⟨os, h⟩
    rw [options?_of_ne hs'] at h
    split at h
    · rename_i hk
      exact Or.inr ⟨hs', hk, Option.some.inj h⟩
    · exact absurd h (by simp)

lemma editText_cases {f : Text → Text} (h : s.editText f = .ok t) :
    s.options? = none ∧ s.stage ≠ .loading ∧ t = { s with value := f s.value } := by
  unfold editText at h
  split at h
  · exact absurd h (by simp)
  · rename_i hlist
    split at h
    · exact absurd h (by simp)
    · rename_i hs
      exact ⟨by simpa [isList] using hlist, hs, (Except.ok.inj h).symm⟩

lemma editList_cases {f : (os : List Text) → 0 < os.length → Except Refusal (Fin os.length)}
    (h : s.editList f = .ok t) :
    ∃ os, s.options? = some os ∧ ∃ hos : 0 < os.length, ∃ place, f os hos = .ok place ∧
      t = s.choose os place := by
  unfold editList at h
  split at h
  · exact absurd h (by simp)
  · rename_i os hs
    split at h
    · rename_i hos
      cases hf : f os hos with
      | error r => rw [hf] at h; exact absurd h (by simp [Except.map])
      | ok place =>
        rw [hf] at h
        exact ⟨os, hs, hos, place, hf, (Except.ok.inj h).symm⟩
    · exact absurd h (by simp)

/-- Every option of a list can be chosen. -/
lemma edit_select {os : List Text} (h : s.options? = some os) {k : Nat} (hk : k < os.length) :
    s.edit (.select k) = .ok (s.choose os ⟨k, hk⟩) := by
  have hpos : 0 < os.length := by omega
  simp [edit, editList, h, hpos, hk, Except.map]

/-- An edit changes the text of a slot without a list, or moves the cursor in the list. -/
lemma edit_cases {e : Edit} (h : s.edit e = .ok t) :
    (s.options? = none ∧ s.stage ≠ .loading ∧ ∃ value, t = { s with value := value }) ∨
      ∃ os, s.options? = some os ∧ ∃ place : Fin os.length, t = s.choose os place := by
  cases e with
  | move d =>
    obtain ⟨os, hs, _, place, -, ht⟩ := editList_cases h
    exact Or.inr ⟨os, hs, place, ht⟩
  | select k =>
    obtain ⟨os, hs, _, place, -, ht⟩ := editList_cases h
    exact Or.inr ⟨os, hs, place, ht⟩
  | setText u =>
    obtain ⟨hs, hl, ht⟩ := editText_cases (f := fun _ => u) h
    exact Or.inl ⟨hs, hl, _, ht⟩
  | push c =>
    obtain ⟨hs, hl, ht⟩ := editText_cases (f := (· ++ [c])) h
    exact Or.inl ⟨hs, hl, _, ht⟩
  | pop =>
    obtain ⟨hs, hl, ht⟩ := editText_cases h
    exact Or.inl ⟨hs, hl, _, ht⟩

/-! ### One change -/

/-- A slot turns into another one: it settles, or it is edited. -/
inductive Becomes (s : Slot) : Slot → Prop where
  | settle {o : Outcome} {t : Slot} (h : s.settle o = some t) : Becomes s t
  | edit {e : Edit} {t : Slot} (h : s.edit e = .ok t) : Becomes s t

/-- A slot is always that of the same parameter. -/
lemma Becomes.parameter_eq (h : s.Becomes t) : t.parameter = s.parameter := by
  cases h with
  | settle h => rcases settle_cases h with ⟨-, ⟨_, rfl⟩ | ⟨_, _, rfl⟩⟩ <;> rfl
  | edit h => rcases edit_cases h with ⟨-, -, _, rfl⟩ | ⟨_, -, _, rfl⟩ <;> rfl

/-! ### What holds at every moment -/

/-- The value is the option under the cursor. -/
def Shows (s : Slot) (os : List Text) : Prop := ∃ h : s.cursor < os.length, s.value = os[s.cursor]

lemma shows_choose (s : Slot) (os : List Text) (place : Fin os.length) :
    (s.choose os place).Shows os := ⟨place.2, rfl⟩

/-- Choosing the option that is chosen already changes nothing. -/
lemma Shows.choose_eq {os : List Text} (h : s.Shows os) {place : Fin os.length}
    (hplace : (place : Nat) = s.cursor) : s.choose os place = s := by
  obtain ⟨hlt, hvalue⟩ := h
  obtain rfl : place = ⟨s.cursor, hlt⟩ := Fin.ext hplace
  rw [choose, List.get_eq_getElem, ← hvalue]

lemma shows_resolve (s : Slot) (os : List Text) (place : Fin os.length) :
    (s.resolve os place).Shows os := ⟨place.2, rfl⟩

/-- What holds of a slot at every moment. -/
structure Consistent (s : Slot) : Prop where
  /-- A dynamic parameter waits for its command or has its outcome, and no other one ever does. -/
  awaiting : s.stage = .awaitingInput ↔ s.parameter.kind ≠ .dynamic
  /-- Nothing is chosen while the options are not known. -/
  loading : s.stage = .loading → s.value = []
  /-- A command that did not fail has given options, and one of them is chosen. -/
  resolved : ∀ os, s.stage = .resolved os → os ≠ [] ∧ s.Shows os
  /-- One of the options of the template is chosen. -/
  choice : s.parameter.kind = .choice → s.parameter.options ≠ [] → s.Shows s.parameter.options
  /-- Nothing can be chosen if the template gives no options. -/
  choice_nil : s.parameter.kind = .choice → s.parameter.options = [] → s.cursor = 0 ∧ s.value = []

/-- Only a dynamic parameter comes to any stage but the first one. -/
lemma Consistent.kind_of_ne (hs : s.Consistent) (h : s.stage ≠ .awaitingInput) :
    s.parameter.kind = .dynamic := by
  by_contra hk
  exact h (hs.awaiting.2 hk)

lemma Consistent.kind_of_loading (hs : s.Consistent) (h : s.stage = .loading) :
    s.parameter.kind = .dynamic :=
  hs.kind_of_ne (by simp [h])

/-- A slot with the options of its command has none of the template, so there is one list that the
cursor can be in. -/
lemma Consistent.kind_of_resolved (hs : s.Consistent) {os : List Text} (h : s.stage = .resolved os) :
    s.parameter.kind = .dynamic :=
  hs.kind_of_ne (by simp [h])

/-- A list is one of the template, or its command has printed it. -/
lemma Consistent.stage_of_list (hs : s.Consistent) {os : List Text} (h : s.options? = some os) :
    s.stage = .awaitingInput ∨ s.stage = .resolved os := by
  rcases options?_cases h with hres | ⟨-, hk, -⟩
  · exact Or.inr hres
  · exact Or.inl (hs.awaiting.2 (by rw [hk]; simp))

lemma Consistent.ne_loading_of_list (hs : s.Consistent) {os : List Text}
    (h : s.options? = some os) : s.stage ≠ .loading := by
  rcases hs.stage_of_list h with hw | hres
  · simp [hw]
  · simp [hres]

/-- One of the options of a list is chosen, if there are any. -/
lemma Consistent.shows (hs : s.Consistent) {os : List Text} (h : s.options? = some os)
    (hne : os ≠ []) : s.Shows os := by
  rcases options?_cases h with hres | ⟨-, hk, rfl⟩
  · exact (hs.resolved os hres).2
  · exact hs.choice hk hne

@[simp] lemma parameter_ofParameter (p : Parameter) : (ofParameter p).parameter = p := by
  unfold ofParameter
  split <;> rfl

lemma ofParameter_choice {p : Parameter} (h : p.kind = .choice) :
    ofParameter p =
      ⟨p, .awaitingInput, p.options.getD ((p.defaultIndex? p.options).getD 0) [],
        (p.defaultIndex? p.options).getD 0⟩ := by
  simp [ofParameter, h]

/-- A slot is consistent at the start. -/
lemma consistent_ofParameter (p : Parameter) : (ofParameter p).Consistent := by
  cases hk : p.kind with
  | text => constructor <;> simp [ofParameter, hk]
  | dynamic => constructor <;> simp [ofParameter, hk]
  | choice =>
    rw [ofParameter_choice hk]
    constructor
    case choice =>
      intro _ hne
      have hlt := p.defaultIndex?_getD_lt hne
      refine ⟨hlt, ?_⟩
      rw [List.getD_eq_getElem?_getD, List.getElem?_eq_getElem hlt, Option.getD_some]
    case choice_nil =>
      intro _ hnil
      simp only at hnil
      simp [hnil, Parameter.defaultIndex?]
    all_goals simp [hk]

lemma Consistent.of_settle (hs : s.Consistent) {o : Outcome} (h : s.settle o = some t) :
    t.Consistent := by
  obtain ⟨hl, hcases⟩ := settle_cases h
  have hk := hs.kind_of_loading hl
  rcases hcases with ⟨why, rfl⟩ | ⟨os, place, rfl⟩
  · constructor <;> simp [fail, hk]
  · constructor
    case resolved =>
      intro os' hos'
      obtain rfl : os = os' := by simpa [resolve] using hos'
      exact ⟨List.length_pos_iff.1 place.pos, shows_resolve s os place⟩
    all_goals simp [resolve, hk]

lemma Consistent.of_edit (hs : s.Consistent) {e : Edit} (h : s.edit e = .ok t) :
    t.Consistent := by
  rcases edit_cases h with ⟨hlist, hl, value, rfl⟩ | ⟨os, hos, place, rfl⟩
  · -- free text: neither a list of the template nor one of the command
    have hres : ∀ os, s.stage ≠ .resolved os := by
      intro os hres
      rw [options?_of_resolved hres] at hlist
      exact absurd hlist (by simp)
    have hk : s.parameter.kind ≠ .choice := by
      intro hk
      rw [options?_of_ne hres, if_pos hk] at hlist
      exact absurd hlist (by simp)
    exact ⟨hs.awaiting, fun h => absurd h hl, fun os h => absurd h (hres os), fun h => absurd h hk,
      fun h => absurd h hk⟩
  · -- a list: the cursor moves within it, and nothing else changes
    have hpos : os ≠ [] := List.length_pos_iff.1 place.pos
    rcases options?_cases hos with hres | ⟨hres, hk, rfl⟩
    · have hdyn := hs.kind_of_resolved hres
      constructor
      case resolved =>
        intro os' hos'
        obtain rfl : os = os' := by simpa [choose, hres] using hos'
        exact ⟨hpos, shows_choose s os place⟩
      all_goals simp [choose, hres, hdyn]
    · have hw := hs.awaiting.2 (by rw [hk]; simp)
      exact ⟨hs.awaiting, fun h => absurd (hw.symm.trans h) (by simp),
        fun os h => absurd h (hres os), fun _ _ => shows_choose s _ place,
        fun _ h => absurd h hpos⟩

/-- No change breaks what holds of a slot. -/
theorem Consistent.of_becomes (hs : s.Consistent) (h : s.Becomes t) : t.Consistent := by
  cases h with
  | settle h => exact hs.of_settle h
  | edit h => exact hs.of_edit h

end Slot

end TemplateFill
