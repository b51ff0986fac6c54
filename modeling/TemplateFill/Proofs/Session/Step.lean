import TemplateFill.Proofs.Session.Operation

/-!
# What one event does to a session

An event of the user ends the session, edits the slot that has the focus, or moves the focus; one
of a job settles the slot that it names.  `Session.Steps` has a rule for each way in which that can
go, and what is known of a step is read off these rules.

`Session.step_endings` says when a step ends the session, and what it leaves alone if it does not:
a refused edit changes nothing, no slot changes but the one that the event is about, and the focus
moves on only if it is told to or a confirmation comes too early.
-/

namespace TemplateFill

namespace Session

variable {s t : Session} {e : Event} {ending : Option Ending} {j : Nat}

/-! ### Confirmation -/

lemma isReady_iff :
    s.isReady ↔ s.slots = [] ∨ s.focus + 1 = s.size ∨ ∀ x ∈ s.slots, x.value ≠ [] := by
  simp [isReady, or_assoc]

lemma confirm_of_ready (h : s.isReady) : s.confirm = (s, some (.submitted s.preview)) := if_pos h

lemma confirm_of_not_ready (h : ¬s.isReady) : s.confirm = (s.focusNext, none) := if_neg h

/-- Confirming moves the focus at most. -/
@[simp] lemma slots_confirm (s : Session) : s.confirm.1.slots = s.slots := by
  by_cases h : s.isReady
  · rw [confirm_of_ready h]
  · rw [confirm_of_not_ready h, focusNext_eq, slots_shift]

/-- An input that edits and confirms does so, if the edit is accepted. -/
lemma step_of_edit {i : Input} {c : Edit} {t : Session} (hi : i.request = .edit c true)
    (h : s.edit s.focus c = .ok t) : s.step (.input i) = t.confirm := by
  simp only [step, take, hi, h, if_true]

/-! ### The rules -/

/-- An event confirms a session: the one in which it arrives, or what an edit makes of it, if the
edit is accepted. -/
inductive Confirms (s : Session) : Event → Session → Prop
  | enter : Confirms s (.input .enter) s
  | choose {k : Nat} {t : Session} (h : s.edit s.focus (.select k) = .ok t) :
      Confirms s (.input (.chooseAndConfirm k)) t
  | setText {u : Text} {t : Session} (h : s.edit s.focus (.setText u) = .ok t) :
      Confirms s (.input (.setTextAndConfirm u)) t

/-- The ways in which an event can go, with the session after it and how it ended. -/
inductive Steps (s : Session) : Event → Session → Option Ending → Prop
  | cancel : Steps s (.input .cancel) s (some .cancelled)
  | next : Steps s (.input .next) (s.shift .next) none
  | prev : Steps s (.input .prev) (s.shift .prev) none
  /-- The edit is refused, and then nothing is confirmed. -/
  | refused {i : Input} {c : Edit} {confirm : Bool} {r : Refusal}
      (hi : i.request = .edit c confirm) (h : s.edit s.focus c = .error r) :
      Steps s (.input i) s none
  | edited {i : Input} {c : Edit} {t : Session} (hi : i.request = .edit c false)
      (h : s.edit s.focus c = .ok t) : Steps s (.input i) t none
  | submitted {e : Event} {t : Session} (h : Confirms s e t) (hready : t.isReady) :
      Steps s e t (some (.submitted t.preview))
  /-- The confirmation comes before the session is ready. -/
  | advanced {e : Event} {t : Session} (h : Confirms s e t) (hready : ¬t.isReady) :
      Steps s e (t.shift .next) none
  | report (m : Message) : Steps s (.report m) (s.deliver m) none

/-- An event that confirms a session does nothing else to it. -/
lemma Confirms.step_eq (h : Confirms s e t) : s.step e = t.confirm := by
  cases h with
  | enter => rfl
  | choose h => exact step_of_edit rfl h
  | setText h => exact step_of_edit rfl h

lemma Confirms.steps (h : Confirms s e t) : Steps s e (s.step e).1 (s.step e).2 := by
  rw [h.step_eq]
  by_cases hready : t.isReady
  · rw [confirm_of_ready hready]
    exact .submitted h hready
  · rw [confirm_of_not_ready hready]
    exact .advanced h hready

lemma step_of_refused {i : Input} {c : Edit} {confirm : Bool} {r : Refusal}
    (hi : i.request = .edit c confirm) (h : s.edit s.focus c = .error r) :
    s.step (.input i) = (s, none) := by
  simp only [step, take, hi, h]

/-- An edit is refused, or made, and perhaps confirmed then. -/
lemma steps_of_edit {i : Input} {c : Edit} {confirm : Bool} (hi : i.request = .edit c confirm)
    (hconfirm : ∀ t, confirm = true → s.edit s.focus c = .ok t → Confirms s (.input i) t) :
    Steps s (.input i) (s.step (.input i)).1 (s.step (.input i)).2 := by
  cases h : s.edit s.focus c with
  | error r =>
    rw [step_of_refused hi h]
    exact .refused hi h
  | ok t =>
    cases confirm with
    | true => exact (hconfirm t rfl h).steps
    | false =>
      have hstep : s.step (.input i) = (t, none) := by
        simp only [step, take, hi, h, Bool.false_eq_true, if_false]
      rw [hstep]
      exact .edited hi h

/-- Every event goes in one of these ways. -/
theorem steps_step (s : Session) (e : Event) : Steps s e (s.step e).1 (s.step e).2 := by
  cases e with
  | report m => exact .report m
  | input i =>
    cases i with
    | cancel => exact .cancel
    | next => exact .next
    | prev => exact .prev
    | enter => exact Confirms.enter.steps
    | chooseAndConfirm k => exact steps_of_edit rfl fun t _ h => .choose h
    | setTextAndConfirm u => exact steps_of_edit rfl fun t _ h => .setText h
    -- the other inputs edit and do not confirm
    | up => exact steps_of_edit rfl (by simp)
    | down => exact steps_of_edit rfl (by simp)
    | choose k => exact steps_of_edit rfl (by simp)
    | char c => exact steps_of_edit rfl (by simp)
    | backspace => exact steps_of_edit rfl (by simp)
    | setText u => exact steps_of_edit rfl (by simp)

/-! ### What an event leaves alone -/

lemma focus_of_edit {i : Nat} {c : Edit} (h : s.edit i c = .ok t) : t.focus = s.focus := by
  obtain ⟨x, y, -, -, rfl⟩ := edit_eq_ok_iff.1 h
  rfl

lemma slot_of_edit {i : Nat} {c : Edit} (h : s.edit i c = .ok t) (hj : j ≠ i) :
    t.slots[j]? = s.slots[j]? := by
  obtain ⟨x, y, -, -, rfl⟩ := edit_eq_ok_iff.1 h
  exact getElem?_setSlot_ne (Ne.symm hj) s y

lemma focus_deliver (s : Session) (m : Message) : (s.deliver m).focus = s.focus := by
  unfold deliver
  cases h : s.deliver? m with
  | none => rfl
  | some t =>
    obtain ⟨-, x, y, -, -, rfl⟩ := deliver?_eq_some_iff.1 h
    rfl

lemma slot_deliver {m : Message} (hj : j ≠ m.index) : (s.deliver m).slots[j]? = s.slots[j]? := by
  unfold deliver
  cases h : s.deliver? m with
  | none => rfl
  | some t =>
    obtain ⟨-, x, y, -, -, rfl⟩ := deliver?_eq_some_iff.1 h
    exact getElem?_setSlot_ne (Ne.symm hj) s y

lemma Confirms.slot_eq (h : Confirms s e t) (hj : j ≠ s.focus) : t.slots[j]? = s.slots[j]? := by
  cases h with
  | enter => rfl
  | choose h => exact slot_of_edit h hj
  | setText h => exact slot_of_edit h hj

lemma Confirms.focus_eq (h : Confirms s e t) : t.focus = s.focus := by
  cases h with
  | enter => rfl
  | choose h => exact focus_of_edit h
  | setText h => exact focus_of_edit h

/-- No report confirms anything. -/
lemma Confirms.exists_input (h : Confirms s e t) : ∃ i, e = .input i := by
  cases h <;> exact ⟨_, rfl⟩

/-- An input changes the slot that has the focus at most, and a report the one that it names. -/
lemma Steps.slot_eq (h : Steps s e t ending) (hinput : ∀ i, e = .input i → j ≠ s.focus)
    (hreport : ∀ m, e = .report m → j ≠ m.index) : t.slots[j]? = s.slots[j]? := by
  cases h with
  | cancel | refused _ _ => rfl
  | next | prev => rw [slots_shift]
  | edited _ h => exact slot_of_edit h (hinput _ rfl)
  | submitted h _ =>
    obtain ⟨i, hi⟩ := h.exists_input
    exact h.slot_eq (hinput i hi)
  | advanced h _ =>
    obtain ⟨i, hi⟩ := h.exists_input
    rw [slots_shift]
    exact h.slot_eq (hinput i hi)
  | report m => exact slot_deliver (hreport m rfl)

/-- The focus moves if it is told to, and at a confirmation that does not end the session. -/
lemma Steps.focus_cases (h : Steps s e t ending) :
    t.focus = s.focus ∨ e = .input .next ∨ e = .input .prev ∨
      ∃ u, Confirms s e u ∧ ¬u.isReady ∧ t = u.shift .next := by
  cases h with
  | cancel | refused _ _ => exact Or.inl rfl
  | next => exact Or.inr (Or.inl rfl)
  | prev => exact Or.inr (Or.inr (Or.inl rfl))
  | edited _ h => exact Or.inl (focus_of_edit h)
  | submitted h _ => exact Or.inl h.focus_eq
  | advanced h hready => exact Or.inr (Or.inr (Or.inr ⟨_, h, hready, rfl⟩))
  | report m => exact Or.inl (focus_deliver s m)

/-! ### How an event ends a session -/

lemma step_cancelled_iff : (s.step e).2 = some .cancelled ↔ e = .input .cancel := by
  constructor
  · intro h
    have hsteps := steps_step s e
    rw [h] at hsteps
    generalize (s.step e).1 = t at hsteps
    cases hsteps
    rfl
  · rintro rfl
    rfl

lemma step_submitted_iff {command : Text} :
    (s.step e).2 = some (.submitted command) ↔
      ∃ u, Confirms s e u ∧ u.isReady ∧ command = u.preview := by
  constructor
  · intro h
    have hsteps := steps_step s e
    rw [h] at hsteps
    generalize (s.step e).1 = t at hsteps
    cases hsteps with
    | submitted hconfirms hready => exact ⟨t, hconfirms, hready, rfl⟩
  · rintro ⟨u, h, hready, rfl⟩
    rw [h.step_eq, confirm_of_ready hready]

/-- When an event ends a session, and what it leaves as it is.

A session is cancelled by the event that says so, and submitted by a confirmation, if the session
is ready once the edit that comes with the confirmation is made; what is submitted is the preview of
the session then.  If the edit of an event is refused, the event does nothing at all.  A report
neither ends the session nor moves the focus.

Apart from the slot that has the focus, or the one that a report names, no slot changes, and nothing
that the session was started with does.  The focus moves only if it is told to, or at a confirmation
for which the session is not ready. -/
theorem step_endings (s : Session) (e : Event) :
    ((s.step e).2 = some .cancelled ↔ e = .input .cancel) ∧
      (∀ command, (s.step e).2 = some (.submitted command) ↔
        ∃ u, Confirms s e u ∧ u.isReady ∧ command = u.preview) ∧
      (∀ i c confirm r, e = .input i → i.request = .edit c confirm →
        s.edit s.focus c = .error r → s.step e = (s, none)) ∧
      (∀ m, e = .report m → (s.step e).2 = none ∧ (s.step e).1.focus = s.focus) ∧
      (∀ j, (s.step e).1.slots[j]? ≠ s.slots[j]? →
        (∃ i, e = .input i ∧ j = s.focus) ∨ ∃ m, e = .report m ∧ j = m.index) ∧
      SameFrame s (s.step e).1 ∧
      ((s.step e).1.focus ≠ s.focus →
        e = .input .next ∨ e = .input .prev ∨ ∃ u, Confirms s e u ∧ ¬u.isReady) := by
  have hsteps := steps_step s e
  refine ⟨step_cancelled_iff, fun command => step_submitted_iff, ?_, ?_, fun j hj => ?_,
    perform_sameFrame s (.step e), fun hfocus => ?_⟩
  · rintro i c confirm r rfl hi h
    exact step_of_refused hi h
  · rintro m rfl
    exact ⟨rfl, focus_deliver s m⟩
  · by_contra hcases
    rw [not_or] at hcases
    obtain ⟨hinput, hreport⟩ := hcases
    exact hj (hsteps.slot_eq (fun i hi hji => hinput ⟨i, hi, hji⟩)
      fun m hm hjm => hreport ⟨m, hm, hjm⟩)
  · rcases hsteps.focus_cases with h | h | h | ⟨u, h, hready, -⟩
    · exact absurd h hfocus
    · exact Or.inl h
    · exact Or.inr (Or.inl h)
    · exact Or.inr (Or.inr ⟨u, h, hready⟩)

/-- Of two list parameters the first has the focus.  A choice behind the end of the list is refused
and not confirmed; a valid one moves the focus on as long as the second parameter has no value, and
on the second one it submits. -/
theorem step_endings_two_lists :
    let ps : List Parameter :=
      [⟨['a'], .choice, [], [['p'], ['q']], []⟩, ⟨['b'], .dynamic, [], [], ['x']⟩]
    let s := withParameters 1 "{{a}}-{{b}}" ps
    let t := (s.step (.report ⟨1, 1, .options [['u'], ['v']]⟩)).1
    let waiting := (s.step (.input (.chooseAndConfirm 1))).1
    s.step (.input (.chooseAndConfirm 2)) = (s, none) ∧
      waiting.focus ≠ s.focus ∧ (∃ u, Confirms s (.input (.chooseAndConfirm 1)) u ∧ ¬u.isReady) ∧
      (s.step (.report ⟨1, 1, .options [['u'], ['v']]⟩)).2 = none ∧ t.focus = s.focus ∧
      (t.step (.input (.chooseAndConfirm 1))).2 = some (.submitted "q-u") ∧
      (t.step (.input (.chooseAndConfirm 1))).1.slots[1]? = t.slots[1]? := by
  intro ps s t waiting
  have hrefused : s.edit s.focus (.select 2) = .error (.outOfRange ['a'] 2 2) := by decide
  have hwaiting : waiting.focus ≠ s.focus := by decide
  obtain ⟨-, -, hrefuse, -⟩ := step_endings s (.input (.chooseAndConfirm 2))
  obtain ⟨-, -, -, -, -, -, hfocus⟩ := step_endings s (.input (.chooseAndConfirm 1))
  obtain ⟨-, -, -, hreport, -⟩ := step_endings s (.report ⟨1, 1, .options [['u'], ['v']]⟩)
  obtain ⟨-, hsubmit, -, -, hslots, -⟩ := step_endings t (.input (.chooseAndConfirm 1))
  have hconfirms : ∃ u, Confirms s (.input (.chooseAndConfirm 1)) u ∧ ¬u.isReady := by
    rcases hfocus hwaiting with h | h | h
    · exact absurd h (by simp)
    · exact absurd h (by simp)
    · exact h
  refine ⟨hrefuse _ _ _ _ rfl rfl hrefused, hwaiting, hconfirms, (hreport _ rfl).1,
    (hreport _ rfl).2, ?_, ?_⟩
  · have hedit : t.edit t.focus (.select 1) =
        .ok (t.setSlot 0 ⟨⟨['a'], .choice, [], [['p'], ['q']], []⟩, .awaitingInput, ['q'], 1⟩) := by
      decide
    exact (hsubmit _).2 ⟨_, .choose hedit, by decide, by decide +kernel⟩
  · by_contra hne
    rcases hslots 1 hne with ⟨-, -, h⟩ | ⟨m, h, -⟩
    · exact absurd h (by decide)
    · exact absurd h (by simp)

end Session

end TemplateFill
