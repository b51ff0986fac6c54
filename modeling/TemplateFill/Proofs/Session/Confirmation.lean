import TemplateFill.Proofs.Session.Drive
import TemplateFill.Proofs.Session.Lifecycle

/-!
# Confirming until the session is submitted

A confirmation that comes before the session is ready moves the focus one slot on, and the session
is ready when the focus has come to the last slot.  So what is left of the way to the last slot
bounds how many confirmations it takes (`Session.confirmationsLeft`): it gets less with each
confirmation that does not submit, and no report changes it, although a report can make the session
ready, or take that from it, at any moment.

Besides, a confirmation changes no slot, so that of all the values only those change for which a
message has an effect (`Session.slot_of_confirming`).  `Session.confirmations_submit` puts this
together.
-/

namespace TemplateFill

namespace Slot

/-- A slot settles once. -/
lemma settle_of_settle {s t : Slot} {o : Outcome} (h : s.settle o = some t) (o' : Outcome) :
    t.settle o' = none := by
  refine settle_of_ne ?_ o'
  obtain ⟨-, ⟨why, rfl⟩ | ⟨os, place, rfl⟩⟩ := settle_cases h
  · simp [fail]
  · simp [resolve]

end Slot

namespace Session

variable {s : Session} {e : Event} {pre post es : List Event} {i : Nat} {x : Slot}

/-! ### The way to the last slot -/

/-- The number of confirmations with which a session is submitted at the latest. -/
def confirmationsLeft (s : Session) : Nat := max 1 (s.size - s.focus)

lemma confirmationsLeft_pos (s : Session) : 0 < s.confirmationsLeft :=
  Nat.le_max_left ..

@[simp] lemma size_deliver (s : Session) (m : Message) : (s.deliver m).size = s.size :=
  size_after s [.deliver m]

lemma confirmationsLeft_deliver (s : Session) (m : Message) :
    (s.deliver m).confirmationsLeft = s.confirmationsLeft := by
  rw [confirmationsLeft, confirmationsLeft, size_deliver, focus_deliver]

/-- A session that is not ready has a slot behind the one that has the focus. -/
lemma Consistent.focus_succ_lt (hs : s.Consistent) (h : ¬s.isReady) : s.focus + 1 < s.size := by
  simp only [isReady_iff, not_or] at h
  obtain ⟨hne, hlast, -⟩ := h
  have hpos := size_pos (mt List.isEmpty_iff.1 hne)
  rcases hs.focus with hlt | ⟨hzero, -⟩ <;> omega

/-- After a confirmation that does not submit there is one less left. -/
lemma Consistent.confirmationsLeft_shift (hs : s.Consistent) (h : ¬s.isReady) :
    s.confirmationsLeft = (s.shift .next).confirmationsLeft + 1 := by
  have hlt := hs.focus_succ_lt h
  have hne : ¬s.slots.isEmpty := fun hnil => h (isReady_iff.2 (Or.inl (List.isEmpty_iff.1 hnil)))
  have hfocus : (s.shift .next).focus = s.focus + 1 := by
    rw [shift_of_ne hne]
    exact Nat.mod_eq_of_lt hlt
  have hsize : (s.shift .next).size = s.size := congrArg List.length (slots_shift s .next)
  rw [confirmationsLeft, confirmationsLeft, hfocus, hsize]
  omega

/-! ### The confirmation that submits -/

/-- A run takes in the events `pre` and then a confirmation that submits the session as it is. -/
structure SubmittedBehind (s : Session) (pre es : List Event) : Prop where
  taken_eq : s.taken es = pre ++ [.input .enter]
  ending_eq : (s.run es).ending = .submitted (s.after (pre.map .step)).preview

lemma submittedBehind_nil (h : s.isReady) (es : List Event) :
    s.SubmittedBehind [] (.input .enter :: es) := by
  have hstep : (s.step (.input .enter)).2 = some (.submitted s.preview) :=
    congrArg Prod.snd (confirm_of_ready h)
  exact ⟨taken_of_some hstep, congrArg Run.ending (drive_of_some hstep)⟩

/-- An event in front that does not end the session is one more that the run takes in. -/
lemma SubmittedBehind.cons (hnone : (s.step e).2 = none)
    (h : (s.step e).1.SubmittedBehind pre es) : s.SubmittedBehind (e :: pre) (e :: es) := by
  refine ⟨?_, (congrArg Run.ending (drive_of_none hnone)).trans h.ending_eq⟩
  rw [taken_of_none hnone, h.taken_eq]
  rfl

/-- With enough confirmations among the reports one of them submits. -/
theorem exists_submittedBehind (hs : s.Consistent)
    (hes : ∀ e ∈ es, e = .input .enter ∨ ∃ m, e = .report m)
    (hcount : s.confirmationsLeft ≤ es.count (.input .enter)) :
    ∃ pre, pre.count (.input .enter) < s.confirmationsLeft ∧ s.SubmittedBehind pre es := by
  induction es generalizing s with
  | nil =>
    have hpos := s.confirmationsLeft_pos
    rw [List.count_nil] at hcount
    omega
  | cons e es ih =>
    obtain ⟨he, hrest⟩ := List.forall_mem_cons.1 hes
    have hnext : (s.step e).1.Consistent := hs.after [.step e]
    rcases he with rfl | ⟨m, rfl⟩
    · rw [List.count_cons_self] at hcount
      by_cases hready : s.isReady
      · exact ⟨[], s.confirmationsLeft_pos, submittedBehind_nil hready es⟩
      · -- the focus moves on, and there is one confirmation less left
        have hstep : s.step (.input .enter) = (s.shift .next, none) := confirm_of_not_ready hready
        have hleft := hs.confirmationsLeft_shift hready
        have hfst : (s.step (.input .enter)).1.confirmationsLeft =
            (s.shift .next).confirmationsLeft := by rw [hstep]
        obtain ⟨pre, hlt, hpre⟩ := ih hnext hrest (by omega)
        refine ⟨.input .enter :: pre, ?_, hpre.cons (congrArg Prod.snd hstep)⟩
        rw [List.count_cons_self]
        omega
    · have hleft : (s.step (.report m)).1.confirmationsLeft = s.confirmationsLeft :=
        confirmationsLeft_deliver s m
      rw [List.count_cons_of_ne (by simp), ← hleft] at hcount
      obtain ⟨pre, hlt, hpre⟩ := ih hnext hrest hcount
      refine ⟨.report m :: pre, ?_, hpre.cons rfl⟩
      rw [List.count_cons_of_ne (by simp), ← hleft]
      exact hlt

/-- Behind reports only, the first confirmation submits a session that it finds ready. -/
lemma submittedBehind_of_ready (hpre : ∀ e ∈ pre, ∃ m, e = .report m)
    (hready : (s.after (pre.map .step)).isReady) (post : List Event) :
    s.SubmittedBehind pre (pre ++ .input .enter :: post) := by
  induction pre generalizing s with
  | nil => exact submittedBehind_nil hready post
  | cons e pre ih =>
    obtain ⟨he, hrest⟩ := List.forall_mem_cons.1 hpre
    obtain ⟨m, rfl⟩ := he
    exact SubmittedBehind.cons rfl (ih hrest hready)

/-- What is submitted stays so, whatever events come later. -/
lemma ending_append {command : Text} (h : (s.run es).ending = .submitted command)
    (es' : List Event) : (s.run (es ++ es')).ending = .submitted command := by
  change (s.drive es).ending = _ at h
  change (s.drive (es ++ es')).ending = _
  induction es generalizing s with
  | nil => exact absurd h (by simp [drive])
  | cons e es ih =>
    rw [List.cons_append]
    cases hstep : (s.step e).2 with
    | some ending =>
      rw [drive_of_some hstep] at h ⊢
      exact h
    | none =>
      rw [drive_of_none hstep] at h ⊢
      exact ih h

/-! ### Confirmations only -/

@[simp] lemma preview_shift (s : Session) (d : Direction) : (s.shift d).preview = s.preview := by
  rw [preview, preview, template_shift, valueOf, valueOf, values, values, slots_shift]

lemma preview_confirm (s : Session) : s.confirm.1.preview = s.preview := by
  by_cases h : s.isReady
  · rw [confirm_of_ready h]
  · rw [confirm_of_not_ready h, focusNext_eq, preview_shift]

/-- Confirmations alone change nothing that is previewed. -/
lemma preview_after_confirmations (h : ∀ e ∈ es, e = .input .enter) :
    (s.after (es.map .step)).preview = s.preview := by
  induction es generalizing s with
  | nil => rfl
  | cons e es ih =>
    obtain ⟨rfl, hrest⟩ := List.forall_mem_cons.1 h
    exact (ih hrest).trans (preview_confirm s)

/-- As many confirmations as there are slots from the focus on submit a session as it is. -/
theorem ending_of_confirmations {k : Nat} (hk : 0 < k) (hfocus : s.size ≤ s.focus + k)
    (hs : s.Consistent) (es : List Event) :
    (s.drive (List.replicate k (.input .enter) ++ es)).ending = .submitted s.preview := by
  have henter : ∀ e ∈ List.replicate k (Event.input .enter), e = .input .enter :=
    fun e he => List.eq_of_mem_replicate he
  have hcount : s.confirmationsLeft ≤
      (List.replicate k (Event.input .enter)).count (.input .enter) := by
    rw [List.count_replicate_self, confirmationsLeft]
    omega
  obtain ⟨pre, -, hpre⟩ := exists_submittedBehind hs (fun e he => Or.inl (henter e he)) hcount
  have hmem : ∀ e ∈ pre, e = .input .enter := by
    intro e he
    refine henter e (taken_subset s _ ?_)
    rw [hpre.taken_eq]
    exact List.mem_append_left _ he
  rw [← preview_after_confirmations hmem]
  exact ending_append hpre.ending_eq es

/-! ### The values meanwhile -/

/-- While a session is confirmed and its jobs report, a slot stays as it is, or it settles with the
one message that has an effect on it. -/
lemma slot_of_confirming (hes : ∀ e ∈ es, e = .input .enter ∨ ∃ m, e = .report m)
    (hx : s.slots[i]? = some x) :
    ∃ y, (s.after (es.map .step)).slots[i]? = some y ∧
      (y = x ∨ ∃ m ∈ s.applied (es.map .step), m.index = i ∧ x.settle m.outcome = some y) := by
  induction es generalizing s x with
  | nil => exact ⟨x, hx, Or.inl rfl⟩
  | cons e es ih =>
    obtain ⟨he, hrest⟩ := List.forall_mem_cons.1 hes
    rw [List.map_cons, after_cons, applied_cons]
    rcases he with rfl | ⟨m, rfl⟩
    · have hslots : (s.perform (.step (.input .enter))).1.slots = s.slots := slots_confirm s
      rw [applied_of_none rfl, List.nil_append]
      exact ih hrest (hslots ▸ hx)
    · have hperform : (s.perform (.step (.report m))).1 = s.deliver m := rfl
      rw [applied_of_message rfl, hperform, deliver]
      cases hd : s.deliver? m with
      | none => exact ih hrest hx
      | some t =>
        obtain ⟨-, x', y, hx', hy, rfl⟩ := deliver?_eq_some_iff.1 hd
        rw [Option.isSome_some, if_pos rfl, Option.getD_some]
        by_cases hi : m.index = i
        · subst hi
          obtain rfl := Option.some.inj (hx'.symm.trans hx)
          obtain ⟨z, hz, hyz⟩ := ih hrest (getElem?_setSlot_self hx' y)
          refine ⟨z, hz, Or.inr ⟨m, by simp, rfl, ?_⟩⟩
          -- what has settled does not settle again
          rcases hyz with rfl | ⟨m', -, -, hsettle⟩
          · exact hy
          · exact absurd ((Slot.settle_of_settle hy _).symm.trans hsettle) (by simp)
        · obtain ⟨z, hz, hxz⟩ := ih hrest ((getElem?_setSlot_ne hi s y).trans hx)
          refine ⟨z, hz, hxz.imp_right ?_⟩
          rintro ⟨m', hm', hindex, hsettle⟩
          exact ⟨m', List.mem_append_right _ hm', hindex, hsettle⟩

/-- A slot that waits has no value.  So if every slot of a session has one, no report takes it
away. -/
lemma forall_value_after (hs : s.Consistent)
    (hes : ∀ e ∈ es, e = .input .enter ∨ ∃ m, e = .report m) (h : ∀ x ∈ s.slots, x.value ≠ []) :
    ∀ y ∈ (s.after (es.map .step)).slots, y.value ≠ [] := by
  intro y hy
  obtain ⟨i, hi, rfl⟩ := List.mem_iff_getElem.1 hy
  have hsize : (s.after (es.map .step)).slots.length = s.slots.length := size_after s _
  have hi' : i < s.slots.length := hsize ▸ hi
  have hmem : s.slots[i] ∈ s.slots := List.getElem_mem hi'
  obtain ⟨z, hz, hcases⟩ := slot_of_confirming hes (List.getElem?_eq_getElem hi')
  obtain rfl := Option.some.inj ((List.getElem?_eq_getElem hi).symm.trans hz)
  rcases hcases with hsame | ⟨m, -, -, hsettle⟩
  · rw [hsame]
    exact h _ hmem
  · have hempty := (hs.slots _ hmem).loading (Slot.settle_cases hsettle).1
    exact absurd hempty (h _ hmem)

/-- A session that is confirmed again and again, while its jobs report, is submitted.

That happens at the confirmation at the latest whose number is that of the slots from the focus on,
and at the first one if there are no slots; what is submitted is the preview of the session at that
moment.  No event cancels the session.  At every moment each slot is as it was at first, or as it
has settled with a message that had an effect.  If every slot has a value, at first or when the
first confirmation comes, then this confirmation submits. -/
theorem confirmations_submit (hs : s.Reachable)
    (hes : ∀ e ∈ es, e = .input .enter ∨ ∃ m, e = .report m) :
    (max 1 (s.size - s.focus) ≤ es.count (.input .enter) →
        ∃ pre, pre.count (.input .enter) < max 1 (s.size - s.focus) ∧ s.SubmittedBehind pre es) ∧
      (∀ pre e, pre ++ [e] <+: es → ((s.after (pre.map .step)).step e).2 ≠ some .cancelled) ∧
      (∀ pre, pre <+: es → ∀ i x, s.slots[i]? = some x →
        ∃ y, (s.after (pre.map .step)).slots[i]? = some y ∧
          (y = x ∨ ∃ m ∈ s.applied (pre.map .step), m.index = i ∧ x.settle m.outcome = some y)) ∧
      ∀ pre post, es = pre ++ .input .enter :: post → .input .enter ∉ pre →
        ((∀ x ∈ s.slots, x.value ≠ []) ∨
          ∀ x ∈ (s.after (pre.map .step)).slots, x.value ≠ []) →
        s.SubmittedBehind pre es := by
  have hevents : ∀ {pre}, pre <+: es → ∀ e ∈ pre, e = .input .enter ∨ ∃ m, e = .report m :=
    fun hpre e he => hes e (hpre.subset he)
  refine ⟨exists_submittedBehind hs.consistent hes, fun pre e hpre hcancelled => ?_,
    fun pre hpre i x => slot_of_confirming (hevents hpre), fun pre post heq hfirst hvalues => ?_⟩
  · have he := hevents hpre e (List.mem_append_right _ (List.mem_singleton_self e))
    rw [step_cancelled_iff.1 hcancelled] at he
    rcases he with h | ⟨m, h⟩ <;> exact absurd h (by simp)
  · subst heq
    have hpre := hevents (List.prefix_append pre _)
    have hall : ∀ x ∈ (s.after (pre.map .step)).slots, x.value ≠ [] :=
      hvalues.elim (forall_value_after hs.consistent hpre) fun h => h
    have hready := isReady_iff.2 (Or.inr (Or.inr hall))
    refine submittedBehind_of_ready (fun e he => ?_) hready post
    rcases hpre e he with rfl | hreport
    · exact absurd he hfirst
    · exact hreport

/-- The focus is on the second of three slots, whose job reports between the confirmations.  The
second confirmation submits, although the first slot has no value.  A session with values for all
slots is submitted by the first one, from its first slot. -/
theorem confirmations_submit_three_slots :
    let ps : List Parameter :=
      [.free ['a'] [], ⟨['b'], .dynamic, [], [], ['x']⟩, .free ['c'] []]
    let s := (withParameters 1 "{{a}}-{{b}}-{{c}}" ps).after [.focusNext]
    let es : List Event := [.input .enter, .report ⟨1, 1, .options [['u'], ['v']]⟩,
      .report ⟨2, 0, .options []⟩, .input .enter, .input .enter]
    let t := withParameters 1 "{{a}}-{{c}}" [.free ['a'] ['p'], .free ['c'] ['q']]
    let es' : List Event := [.report ⟨1, 1, .failed .signal⟩, .input .enter, .input .enter]
    s.Reachable ∧ (∀ e ∈ es, e = .input .enter ∨ ∃ m, e = .report m) ∧
      max 1 (s.size - s.focus) = 2 ∧ 2 ≤ es.count (.input .enter) ∧
      (∃ pre, pre.count (.input .enter) < 2 ∧ s.SubmittedBehind pre es) ∧
      (s.run es).ending = .submitted "{{a}}-u-{{c}}" ∧
      (∀ x ∈ t.slots, x.value ≠ []) ∧
      t.SubmittedBehind [.report ⟨1, 1, .failed .signal⟩] es' := by
  intro ps s es t es'
  have hs : s.Reachable := ⟨1, _, ps, _, rfl⟩
  have ht : t.Reachable := ⟨1, _, _, [], rfl⟩
  have hes : ∀ e ∈ es, e = .input .enter ∨ ∃ m, e = .report m := by simp [es]
  have hes' : ∀ e ∈ es', e = .input .enter ∨ ∃ m, e = .report m := by simp [es']
  have hleft : max 1 (s.size - s.focus) = 2 := by decide
  have hcount : 2 ≤ es.count (.input .enter) := by decide
  have hvalues : ∀ x ∈ t.slots, x.value ≠ [] := by decide
  obtain ⟨hsubmitted, -⟩ := confirmations_submit hs hes
  rw [hleft] at hsubmitted
  exact ⟨hs, hes, hleft, hcount, hsubmitted hcount, by decide +kernel, hvalues,
    (confirmations_submit ht hes').2.2.2 _ _ rfl (by simp) (Or.inl hvalues)⟩

end Session

end TemplateFill
