import TemplateFill.Proofs.Session.Delivery

/-!
# The life of a parameter

The stage of a slot changes once at most.  A parameter that is not dynamic has nothing to wait for.
A dynamic one waits until the first message for it arrives, and has options or a failure from then
on.  What one operation can do to the stage of a slot is said in `Session.perform_slot`, and what
becomes of a slot in a run in `Session.after_slot`.

So the messages that have an effect can be counted (`Session.applied`).  There is at most one for
each parameter (`Session.nodup_applied`), each of them ends the waiting of its parameter, and
nothing else does (`Session.pending_after`).  What still waits are the parameters whose jobs have
not been heard of (`Session.pending_eq_countP_jobs`).
-/

namespace TemplateFill

open Relation (ReflTransGen)

/-! ### Stages -/

/-- What the stage of a slot can be later on: the same one, or in place of the waiting for a command
what has come of it. -/
inductive Stage.Precedes : Stage → Stage → Prop
  | refl (a : Stage) : Precedes a a
  | resolved (os : List Text) : Precedes .loading (.resolved os)
  | failed (why : Failure) : Precedes .loading (.failed why)

namespace Stage

variable {a b c : Stage}

lemma Precedes.eq_of_ne (h : a.Precedes b) (ha : a ≠ .loading) : b = a := by
  cases h with
  | refl => rfl
  | resolved os => exact absurd rfl ha
  | failed why => exact absurd rfl ha

lemma Precedes.trans (h : a.Precedes b) (h' : b.Precedes c) : a.Precedes c := by
  cases h with
  | refl => exact h'
  | resolved os =>
    rw [h'.eq_of_ne (by simp)]
    exact .resolved os
  | failed why =>
    rw [h'.eq_of_ne (by simp)]
    exact .failed why

end Stage

lemma Text.idxOf?_of_mem {t : Text} {ts : List Text} (h : t ∈ ts) :
    ts.idxOf? t = some (ts.idxOf t) := by
  cases hi : ts.idxOf? t with
  | none => exact absurd h (List.idxOf?_eq_none_iff.1 hi)
  | some i => rw [List.idxOf_eq_getD_idxOf?, hi, Option.getD_some]

/-- The place of the option that is chosen before anyone chooses: that of the default, if it is one
of the options, and otherwise the first one. -/
def Parameter.firstPlace (p : Parameter) (os : List Text) : Nat :=
  if p.default ≠ [] ∧ p.default ∈ os then os.idxOf p.default else 0

lemma Parameter.getD_defaultIndex? (p : Parameter) (os : List Text) :
    (p.defaultIndex? os).getD 0 = p.firstPlace os := by
  unfold defaultIndex? firstPlace hasDefault
  by_cases hd : p.default = []
  · simp [hd]
  · by_cases hmem : p.default ∈ os
    · simp [hd, hmem, Text.idxOf?_of_mem hmem]
    · have hnone : os.idxOf? p.default = none := List.idxOf?_eq_none_iff.2 hmem
      simp [hd, hmem, hnone]

namespace Slot

variable {s t : Slot}

/-- What an outcome leaves behind in a slot: the options with one of them chosen, or the failure
with the default for a value.  An empty list of options is a failure. -/
def SettledWith (s : Slot) : Outcome → Prop
  | .options [] => s.stage = .failed .emptyOutput ∧ s.value = s.parameter.default
  | .options (o :: os) =>
    s.stage = .resolved (o :: os) ∧ s.cursor = s.parameter.firstPlace (o :: os) ∧
      (o :: os)[s.cursor]? = some s.value
  | .failed why => s.stage = .failed why ∧ s.value = s.parameter.default

lemma settledWith_of_settle {o : Outcome} (h : s.settle o = some t) : t.SettledWith o := by
  obtain ⟨hl, -⟩ := settle_cases h
  rcases o with os | why
  · rcases os with _ | ⟨o, os⟩
    · rw [settle_nil hl] at h
      obtain rfl := Option.some.inj h
      exact ⟨rfl, rfl⟩
    · rw [settle_options hl (List.cons_ne_nil o os)] at h
      obtain rfl := Option.some.inj h
      exact ⟨rfl, s.parameter.getD_defaultIndex? (o :: os), List.getElem?_eq_getElem _⟩
  · rw [settle_failed hl] at h
    obtain rfl := Option.some.inj h
    exact ⟨rfl, rfl⟩

lemma SettledWith.eq_options {o : Outcome} {os : List Text} (h : s.SettledWith o)
    (hos : s.stage = .resolved os) : o = .options os := by
  rcases o with (_ | ⟨o, os'⟩) | why
  · exact absurd (h.1.symm.trans hos) (by simp)
  · rw [Stage.resolved.inj (h.1.symm.trans hos)]
  · exact absurd (h.1.symm.trans hos) (by simp)

lemma Becomes.precedes (h : s.Becomes t) : s.stage.Precedes t.stage := by
  cases h with
  | settle h =>
    obtain ⟨hl, ⟨why, rfl⟩ | ⟨os, place, rfl⟩⟩ := settle_cases h
    · rw [hl]
      exact .failed why
    · rw [hl]
      exact .resolved os
  | edit h => rcases edit_cases h with ⟨-, -, _, rfl⟩ | ⟨_, -, _, rfl⟩ <;> exact .refl _

/-- Whatever becomes of a slot, it is that of the same parameter, and its stage has changed once at
most. -/
lemma of_becomes (h : ReflTransGen Becomes s t) :
    t.parameter = s.parameter ∧ s.stage.Precedes t.stage := by
  induction h with
  | refl => exact ⟨rfl, .refl _⟩
  | tail _ h ih => exact ⟨h.parameter_eq.trans ih.1, ih.2.trans h.precedes⟩

end Slot

namespace Session

variable {s t : Session} {i : Nat} {x : Slot}

/-! ### What becomes of a slot -/

lemma Moves.slot_becomes (h : Moves s t) (hx : s.slots[i]? = some x) :
    ∃ y, t.slots[i]? = some y ∧ ReflTransGen Slot.Becomes x y := by
  cases h with
  | @slot j x' y hx' hy =>
    by_cases hij : j = i
    · subst hij
      obtain rfl := Option.some.inj (hx'.symm.trans hx)
      exact ⟨y, getElem?_setSlot_self hx' y, .single hy⟩
    · exact ⟨x, (getElem?_setSlot_ne hij s y).trans hx, .refl⟩
  | shift d => exact ⟨x, by rw [slots_shift]; exact hx, .refl⟩

/-- What is found at the place of a slot after a run has become of it. -/
theorem after_slot (hx : s.slots[i]? = some x) (ops : List Operation) :
    ∃ y, (s.after ops).slots[i]? = some y ∧ ReflTransGen Slot.Becomes x y := by
  refine after_preserves (P := fun t => ∃ y, t.slots[i]? = some y ∧ ReflTransGen Slot.Becomes x y)
    (fun hmove ⟨y, hy, hxy⟩ => ?_) ⟨x, hx, .refl⟩ ops
  obtain ⟨z, hz, hyz⟩ := hmove.slot_becomes hy
  exact ⟨z, hz, hxy.trans hyz⟩

lemma awaits_of_slot (hx : s.slots[i]? = some x) : s.awaits i = decide (x.stage = .loading) := by
  simp [awaits, hx]

/-- An operation leaves a slot in its stage, or it brings the message that the slot waits for. -/
theorem perform_slot (hx : s.slots[i]? = some x) (o : Operation) :
    ∃ y, (s.perform o).1.slots[i]? = some y ∧
      (y.stage = x.stage ∨ x.stage = .loading ∧
        ∃ m, o.message? = some m ∧ m.session = s.id ∧ m.index = i ∧ y.SettledWith m.outcome) := by
  obtain ⟨y, hy, hxy⟩ := after_slot hx [o]
  refine ⟨y, hy, ?_⟩
  have hprecedes := (Slot.of_becomes hxy).2
  by_cases hl : x.stage = .loading
  · cases hr : s.reported [o] i with
    | true =>
      obtain ⟨m, hm, hid, rfl⟩ : ∃ m, o.message? = some m ∧ m.session = s.id ∧ m.index = i := by
        simpa [reported, Option.any_eq_true] using hr
      refine Or.inr ⟨hl, m, hm, hid, rfl, ?_⟩
      -- a slot that waits takes the outcome, whatever it is
      obtain ⟨z, hz⟩ : ∃ z, x.settle m.outcome = some z := by
        rw [← Option.isSome_iff_exists, Slot.isSome_settle, hl]
        rfl
      have hdeliver : s.deliver? m = some (s.setSlot m.index z) :=
        deliver?_eq_some_iff.2 ⟨hid, x, z, hx, hz, rfl⟩
      have hperform : (s.perform o).1 = s.setSlot m.index z := by
        rw [perform_of_message hm, deliver, hdeliver, Option.getD_some]
      have hy' : (s.perform o).1.slots[m.index]? = some z := by
        rw [hperform]
        exact getElem?_setSlot_self hx z
      obtain rfl := Option.some.inj (hy'.symm.trans hy)
      exact Slot.settledWith_of_settle hz
    | false =>
      have hawaits : (s.after [o]).awaits i = s.awaits i := awaits_perform_of_not_reported hr
      rw [awaits_of_slot hx, awaits_of_slot hy] at hawaits
      exact Or.inl ((of_decide_eq_true (hawaits.trans (decide_eq_true hl))).trans hl.symm)
  · exact Or.inl (hprecedes.eq_of_ne hl)

/-- The options of a slot were there before a run, or a message of the run has brought them. -/
theorem resolved_after {y : Slot} {os : List Text} {ops : List Operation}
    (hx : s.slots[i]? = some x) (hy : (s.after ops).slots[i]? = some y)
    (hos : y.stage = .resolved os) :
    x.stage = .resolved os ∨
      ∃ o ∈ ops, ∃ m, o.message? = some m ∧ m.session = s.id ∧ m.outcome = .options os := by
  induction ops generalizing s x with
  | nil =>
    obtain rfl := Option.some.inj (hx.symm.trans hy)
    exact Or.inl hos
  | cons o ops ih =>
    obtain ⟨z, hz, hcases⟩ := perform_slot hx o
    rcases ih hz hy with hzos | ⟨o', ho', m, hm, hid, hmos⟩
    · rcases hcases with hsame | ⟨-, m, hm, hid, -, hsettled⟩
      · exact Or.inl (hsame.symm.trans hzos)
      · exact Or.inr ⟨o, List.mem_cons_self, m, hm, hid, hsettled.eq_options hzos⟩
    · rw [(perform_sameFrame s o).id_eq] at hid
      exact Or.inr ⟨o', List.mem_cons_of_mem o ho', m, hm, hid, hmos⟩

/-! ### The messages that have an effect -/

/-- The messages in a row of operations that have an effect, in order. -/
def applied (s : Session) : List Operation → List Message
  | [] => []
  | o :: ops =>
    o.message?.toList.filter (fun m => (s.deliver? m).isSome) ++ (s.perform o).1.applied ops

lemma applied_cons (s : Session) (o : Operation) (ops : List Operation) :
    s.applied (o :: ops) = s.applied [o] ++ (s.perform o).1.applied ops := by
  simp [applied]

lemma applied_of_message {o : Operation} {m : Message} (h : o.message? = some m) :
    s.applied [o] = if (s.deliver? m).isSome then [m] else [] := by
  simp [applied, h, List.filter_cons]

lemma applied_of_none {o : Operation} (h : o.message? = none) : s.applied [o] = [] := by
  simp [applied, h]

lemma mem_applied_single {o : Operation} :
    i ∈ (s.applied [o]).map Message.index ↔ s.awaits i = true ∧ s.reported [o] i = true := by
  cases hm : o.message? with
  | none => simp [applied_of_none hm, reported, hm]
  | some m =>
    rw [applied_of_message hm, isSome_deliver?]
    by_cases hid : m.session = s.id
    · by_cases hi : m.index = i
      · subst hi
        cases ha : s.awaits m.index <;> simp [reported, hm, hid]
      · cases ha : s.awaits m.index <;> simp [reported, hm, hid, hi, Ne.symm hi]
    · simp [reported, hm, hid]

/-- The parameters for which a message has an effect are those that waited and are reported. -/
lemma mem_applied (s : Session) (ops : List Operation) (i : Nat) :
    i ∈ (s.applied ops).map Message.index ↔ s.awaits i = true ∧ s.reported ops i = true := by
  induction ops generalizing s with
  | nil => simp [applied, reported]
  | cons o ops ih =>
    have hnext : (s.perform o).1.awaits i = (!s.reported [o] i && s.awaits i) :=
      awaits_after s [o] i
    rw [applied_cons, List.map_append, List.mem_append, mem_applied_single, ih, hnext,
      reported_perform, reported_cons s o ops]
    cases s.reported [o] i <;> cases s.awaits i <;> simp

/-- No parameter is the subject of two messages that have an effect. -/
theorem nodup_applied (s : Session) (ops : List Operation) :
    ((s.applied ops).map Message.index).Nodup := by
  induction ops generalizing s with
  | nil => exact List.nodup_nil
  | cons o ops ih =>
    rw [applied_cons, List.map_append]
    refine List.nodup_append.2 ⟨?_, ih _, fun i hi j hj => ?_⟩
    · cases hm : o.message? with
      | none => simp [applied_of_none hm]
      | some m =>
        rw [applied_of_message hm]
        split <;> simp
    · -- what the first operation reports does not wait any more
      rintro rfl
      have hreported := (mem_applied_single.1 hi).2
      have hawaits := ((mem_applied _ ops i).1 hj).1
      rw [awaits_perform_of_reported hreported] at hawaits
      exact absurd hawaits (by simp)

/-! ### The parameters that wait -/

lemma pending_eq (s : Session) : s.pending = (List.range s.size).countP s.awaits := by
  have hmap : s.slots.map (fun x => decide (x.stage = .loading)) =
      (List.range s.size).map s.awaits := by
    refine List.ext_getElem (by simp [size]) fun i h _ => ?_
    have hi : i < s.slots.length := by simpa using h
    simp [awaits, List.getElem?_eq_getElem hi]
  have hcount := congrArg (List.countP fun b => b) hmap
  rw [List.countP_map, List.countP_map] at hcount
  exact hcount

lemma pending_deliver? {m : Message} (h : s.deliver? m = some t) : s.pending = t.pending + 1 := by
  obtain ⟨-, x, y, hx, hy, rfl⟩ := deliver?_eq_some_iff.1 h
  obtain ⟨hi, hxi⟩ := List.getElem?_eq_some_iff.1 hx
  -- the slot is counted before, and what it has become is not
  obtain ⟨hl, hcases⟩ := Slot.settle_cases hy
  have hy' : y.stage ≠ .loading := by
    rcases hcases with ⟨_, rfl⟩ | ⟨_, _, rfl⟩ <;> simp [Slot.fail, Slot.resolve]
  have hpos : 0 < s.pending :=
    List.countP_pos_iff.2 ⟨x, List.mem_of_getElem? hx, by simpa using hl⟩
  have hset : (s.setSlot m.index y).pending = s.pending - 1 := by
    simp [pending, setSlot, List.countP_set hi, hxi, hl, hy']
  omega

/-- A message that has an effect ends the waiting of one parameter, and nothing else does. -/
lemma pending_perform (s : Session) (o : Operation) :
    s.pending = (s.perform o).1.pending + (s.applied [o]).length := by
  cases hm : o.message? with
  | none =>
    have hsame : (s.perform o).1.awaits = s.awaits :=
      funext fun i => awaits_perform fun m h => absurd (hm.symm.trans h) (by simp)
    have hsize : (s.perform o).1.size = s.size := size_after s [o]
    rw [applied_of_none hm, pending_eq, pending_eq, hsame, hsize]
    rfl
  | some m =>
    rw [applied_of_message hm, perform_of_message hm, deliver]
    cases hd : s.deliver? m with
    | none => rfl
    | some t => exact pending_deliver? hd

/-- As many parameters wait less after a run as messages have had an effect in it. -/
theorem pending_after (s : Session) (ops : List Operation) :
    s.pending = (s.after ops).pending + (s.applied ops).length := by
  induction ops generalizing s with
  | nil => rfl
  | cons o ops ih =>
    have hhead := pending_perform s o
    have htail := ih (s.perform o).1
    rw [applied_cons, List.length_append, after_cons]
    omega

/-! ### The jobs -/

section Jobs

variable {n : Nat} {template : Text} {ps : List Parameter}

/-- There is a job for each dynamic parameter, with the name and the command of the parameter. -/
lemma mem_jobs {j : Job} :
    j ∈ (withParameters n template ps).jobs ↔
      j.session = n ∧ ∃ p, ps[j.index]? = some p ∧ p.kind = .dynamic ∧ j.name = p.name ∧
        j.command = p.command := by
  have hslot : ∀ i, (withParameters n template ps).slots[i]? = ps[i]?.map Slot.ofParameter :=
    fun i => List.getElem?_map ..
  simp only [jobs, List.mem_filterMap, Prod.exists, List.mem_zipIdx_iff_getElem?, hslot,
    Option.map_eq_some_iff]
  constructor
  · rintro ⟨_, i, ⟨p, hp, rfl⟩, hj⟩
    rw [Slot.parameter_ofParameter] at hj
    split at hj
    · rename_i hk
      obtain rfl := Option.some.inj hj
      exact ⟨rfl, p, hp, hk, congrArg Parameter.name (Slot.parameter_ofParameter p), rfl⟩
    · exact absurd hj (by simp)
  · obtain ⟨m, i, name, command⟩ := j
    rintro ⟨rfl, p, hp, hk, rfl, rfl⟩
    refine ⟨_, i, ⟨p, hp, rfl⟩, ?_⟩
    rw [Slot.parameter_ofParameter, if_pos hk, Slot.name, Slot.parameter_ofParameter]
    rfl

lemma awaits_start (n : Nat) (template : Text) (ps : List Parameter) (i : Nat) :
    (withParameters n template ps).awaits i = ps[i]?.any (·.kind = .dynamic) := by
  have hstage : ∀ p, (Slot.ofParameter p).stage = .loading ↔ p.kind = .dynamic := by
    intro p
    cases hk : p.kind <;> simp [Slot.ofParameter, hk]
  cases hp : ps[i]? <;> simp [awaits, withParameters, hp, hstage]

/-- The jobs are those of the parameters that wait at the start, in order. -/
lemma map_index_jobs (n : Nat) (template : Text) (ps : List Parameter) :
    (withParameters n template ps).jobs.map Job.index =
      (List.range ps.length).filter (withParameters n template ps).awaits := by
  have hrange :
      (withParameters n template ps).slots.zipIdx.map Prod.snd = List.range ps.length := by
    rw [List.zipIdx_map_snd, List.range_eq_range']
    simp [withParameters]
  rw [jobs, List.map_filterMap, ← hrange, ← List.filterMap_eq_filter, List.filterMap_map]
  refine List.filterMap_congr ?_
  rintro ⟨x, i⟩ hx
  have hslot : ps[i]?.map Slot.ofParameter = some x :=
    (List.getElem?_map ..).symm.trans (List.mem_zipIdx_iff_getElem?.1 hx)
  obtain ⟨p, hp, rfl⟩ := Option.map_eq_some_iff.1 hslot
  by_cases hk : p.kind = .dynamic <;> simp [Option.guard, awaits_start, hp, hk]

/-- What waits are the parameters whose jobs have not been heard of. -/
theorem pending_eq_countP_jobs (n : Nat) (template : Text) (ps : List Parameter)
    (ops : List Operation) :
    let s := withParameters n template ps
    (s.after ops).pending =
      s.jobs.countP fun j => decide (j.index ∉ (s.applied ops).map Message.index) := by
  intro s
  have hsize : (s.after ops).size = ps.length := by
    rw [size_after, ← length_parameters, parameters_withParameters]
  have hcount : s.jobs.countP (fun j => decide (j.index ∉ (s.applied ops).map Message.index)) =
      (s.jobs.map Job.index).countP fun i => decide (i ∉ (s.applied ops).map Message.index) := by
    rw [List.countP_map]
    rfl
  rw [hcount, map_index_jobs, List.countP_filter, pending_eq, hsize]
  refine List.countP_congr fun i _ => ?_
  rw [awaits_after, Bool.and_eq_true, Bool.and_eq_true, decide_eq_true_eq, mem_applied]
  cases s.awaits i <;> cases s.reported ops i <;> simp

/-- A job whose message has come does not wait any more.  So nothing waits once all have come. -/
lemma pending_eq_zero {ops : List Operation}
    (h : ∀ j ∈ (withParameters n template ps).jobs,
      ∃ o ∈ ops, ∃ outcome, o.message? = some (j.report outcome)) :
    ((withParameters n template ps).after ops).pending = 0 := by
  rw [pending_eq_countP_jobs, List.countP_eq_zero]
  intro j hj
  obtain ⟨o, ho, outcome, hm⟩ := h j hj
  have hsession : j.session = n := (mem_jobs.1 hj).1
  have hawaits : (withParameters n template ps).awaits j.index = true := by
    have hmem := List.mem_map_of_mem (f := Job.index) hj
    rw [map_index_jobs] at hmem
    exact (List.mem_filter.1 hmem).2
  have hreported : (withParameters n template ps).reported ops j.index = true := by
    refine List.any_eq_true.2 ⟨o, ho, ?_⟩
    simp [hm, Job.report, hsession, withParameters]
  simpa using (mem_applied _ ops j.index).2 ⟨hawaits, hreported⟩

/-- The life of the parameters of a session, from its start on.

The first part is about a slot at any moment.  If its parameter is not dynamic, there is nothing
that it waits for; and whatever is asked of the session from there on, a slot that does not wait
keeps its stage, with the options or the failure in it.  The stage changes in one way only, by the
message that the slot waits for, which fixes the value and the cursor with it.

Then come the jobs, which are those of the dynamic parameters in their order, and how many
parameters wait: those for whose jobs no message has had an effect, never more than before, and none
once a message for each job has come. -/
theorem settles_once (n : Nat) (template : Text) (ps : List Parameter) (history : List Operation) :
    let start := withParameters n template ps
    let s := start.after history
    (∀ i x, s.slots[i]? = some x →
        (x.parameter.kind ≠ .dynamic → x.stage = .awaitingInput) ∧
          (∀ ops, ∃ y, (s.after ops).slots[i]? = some y ∧ y.parameter = x.parameter ∧
            x.stage.Precedes y.stage ∧ (x.stage ≠ .loading → y.stage = x.stage)) ∧
          ∀ o, ∃ y, (s.perform o).1.slots[i]? = some y ∧
            (y.stage = x.stage ∨ x.stage = .loading ∧
              ∃ m, o.message? = some m ∧ m.session = n ∧ m.index = i ∧ y.SettledWith m.outcome)) ∧
      ((start.jobs.map Job.index).Pairwise (· < ·) ∧
        ∀ j, j ∈ start.jobs ↔ j.session = n ∧ ∃ p, ps[j.index]? = some p ∧ p.kind = .dynamic ∧
          j.name = p.name ∧ j.command = p.command) ∧
      s.pending =
        start.jobs.countP (fun j => decide (j.index ∉ (start.applied history).map Message.index)) ∧
      (∀ ops, (s.after ops).pending ≤ s.pending) ∧
      ((∀ j ∈ start.jobs, ∃ o ∈ history, ∃ outcome, o.message? = some (j.report outcome)) →
        s.pending = 0) := by
  intro start s
  have hs : s.Consistent := (consistent_withParameters n template ps).after history
  have hid : s.id = n := (after_sameFrame start history).id_eq
  refine ⟨fun i x hx => ⟨?_, fun ops => ?_, fun o => ?_⟩, ⟨?_, fun j => mem_jobs⟩,
    pending_eq_countP_jobs n template ps history, fun ops => ?_, pending_eq_zero⟩
  · exact (hs.slots x (List.mem_of_getElem? hx)).awaiting.2
  · obtain ⟨y, hy, hxy⟩ := after_slot hx ops
    obtain ⟨hparameter, hstage⟩ := Slot.of_becomes hxy
    exact ⟨y, hy, hparameter, hstage, hstage.eq_of_ne⟩
  · rw [← hid]
    exact perform_slot hx o
  · rw [map_index_jobs]
    exact List.pairwise_lt_range.filter _
  · exact Nat.le.intro (pending_after s ops).symm

/-- Two jobs report, one of them twice, and a message for another session comes first.  The options
of the first parameter stay, and it starts with the first option that is its default. -/
theorem settles_once_two_jobs :
    let ps : List Parameter :=
      [⟨['a'], .dynamic, ['v'], [], ['x']⟩, .free ['t'] [], ⟨['b'], .dynamic, ['d'], [], ['y']⟩]
    let start := withParameters 1 [] ps
    let first : List Operation :=
      [.deliver ⟨2, 0, .failed .signal⟩, .deliver ⟨1, 0, .options [['u'], ['v'], ['v']]⟩]
    let later : List Operation :=
      [.edit 0 (.move .next), .step (.report ⟨1, 2, .options []⟩), .deliver ⟨1, 0, .failed .signal⟩]
    let x : Slot := ⟨⟨['a'], .dynamic, ['v'], [], ['x']⟩, .resolved [['u'], ['v'], ['v']], ['v'], 1⟩
    (start.after first).slots[0]? = some x ∧ x.stage ≠ .loading ∧
      (∃ y, ((start.after first).after later).slots[0]? = some y ∧ y.stage = x.stage) ∧
      (start.after first).pending = 1 ∧ (start.after (first ++ later)).pending = 0 := by
  intro ps start first later x
  have hx : (start.after first).slots[0]? = some x := by decide
  have hne : x.stage ≠ .loading := by decide
  obtain ⟨y, hy, -, -, hstage⟩ := ((settles_once 1 [] ps first).1 0 x hx).2.1 later
  have hjobs : ∀ j ∈ start.jobs, ∃ o ∈ first ++ later, ∃ outcome,
      o.message? = some (j.report outcome) := by
    have hstart : start.jobs = [⟨1, 0, ['a'], ['x']⟩, ⟨1, 2, ['b'], ['y']⟩] := by decide
    rw [hstart]
    intro j hj
    rcases List.mem_pair.1 hj with rfl | rfl
    · exact ⟨.deliver ⟨1, 0, .options [['u'], ['v'], ['v']]⟩, by decide, _, rfl⟩
    · exact ⟨.step (.report ⟨1, 2, .options []⟩), by decide, _, rfl⟩
  exact ⟨hx, hne, ⟨y, hy, hstage hne⟩, by decide, (settles_once 1 [] ps _).2.2.2.2 hjobs⟩

end Jobs

end Session

end TemplateFill
