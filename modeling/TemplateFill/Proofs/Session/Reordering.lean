import Mathlib.Data.List.Nodup
import TemplateFill.Proofs.Session.Operation

/-!
# The order in which jobs report

The jobs of a session report in no fixed order, and the user goes on typing while they do.  What
becomes of the session does not depend on it: messages for different parameters can change places,
and a message can change places with whatever is done to the other parameters and to the focus
(`Session.reports_commute`).

The reason is that a message reads and writes one slot only, so that it can change places with every
operation that does not see this slot (`Session.commute_deliver`).
-/

namespace TemplateFill

/-- Two operations can change places: in both orders they lead to the same session, and each of
them gets the same answer. -/
def Operation.Commute (o o' : Operation) : Prop :=
  ∀ s : Session, ((s.perform o).1.perform o').1 = ((s.perform o').1.perform o).1 ∧
    ((s.perform o).1.perform o').2 = (s.perform o').2 ∧
    ((s.perform o').1.perform o).2 = (s.perform o).2

namespace Session

/-! ### Slots that an operation does not see -/

/-- An operation does not see the slot at a place: whatever stands there, it does the same to the
rest of the session, gives the same answer, and leaves the slot alone. -/
structure Ignores (o : Operation) (i : Nat) : Prop where
  perform_setSlot : ∀ (s : Session) (x : Slot),
    (s.setSlot i x).perform o = ((s.perform o).1.setSlot i x, (s.perform o).2)
  getElem?_perform : ∀ s : Session, (s.perform o).1.slots[i]? = s.slots[i]?

lemma deliver?_setSlot_ne {i : Nat} {m : Message} (h : i ≠ m.index) (s : Session) (x : Slot) :
    (s.setSlot i x).deliver? m = (s.deliver? m).map fun t => t.setSlot i x := by
  rw [deliver?_eq, deliver?_eq, id_setSlot, getElem?_setSlot_ne h]
  split
  · rw [Option.map_map]
    exact congrArg (Option.map · _) (funext fun y => setSlot_comm h s x y)
  · rfl

lemma edit_setSlot_ne {i j : Nat} (h : i ≠ j) (s : Session) (x : Slot) (e : Edit) :
    (s.setSlot i x).edit j e = (s.edit j e).map fun t => t.setSlot i x := by
  unfold Session.edit
  rw [getElem?_setSlot_ne h]
  cases hy : s.slots[j]? with
  | none => rfl
  | some y =>
    cases hz : y.edit e with
    | error r => simp [hz, Except.map]
    | ok z => simp [hz, Except.map, setSlot, List.set_comm _ _ h]

lemma ignores_deliver {m : Message} {i : Nat} (h : m.index ≠ i) : Ignores (.deliver m) i := by
  constructor
  · intro s x
    rw [perform, perform, deliver, deliver, deliver?_setSlot_ne h.symm]
    cases s.deliver? m <;> rfl
  · intro s
    rw [perform, deliver]
    cases hm : s.deliver? m with
    | none => rfl
    | some t =>
      obtain ⟨-, _, y, -, -, rfl⟩ := deliver?_eq_some_iff.1 hm
      exact getElem?_setSlot_ne h s y

lemma ignores_edit {i j : Nat} (h : j ≠ i) (e : Edit) : Ignores (.edit j e) i := by
  constructor
  · intro s x
    rw [perform, perform, edit_setSlot_ne h.symm]
    cases s.edit j e <;> rfl
  · intro s
    cases he : s.edit j e with
    | error r => rw [perform_edit_of_error he]
    | ok t =>
      obtain ⟨_, y, -, -, rfl⟩ := edit_eq_ok_iff.1 he
      rw [perform_edit_of_ok he]
      exact getElem?_setSlot_ne h s y

lemma ignores_focusNext (i : Nat) : Ignores .focusNext i :=
  ⟨fun s x => Prod.ext (shift_setSlot s i x .next) rfl,
    fun s => congrArg (fun l => l[i]?) (slots_shift s .next)⟩

lemma ignores_focusPrev (i : Nat) : Ignores .focusPrev i :=
  ⟨fun s x => Prod.ext (shift_setSlot s i x .prev) rfl,
    fun s => congrArg (fun l => l[i]?) (slots_shift s .prev)⟩

/-- A message can change places with every operation that does not see its slot. -/
theorem commute_deliver {m : Message} {o : Operation} (h : Ignores o m.index) :
    Operation.Commute (.deliver m) o := by
  intro s
  -- the message finds the slot that it would have found, and what it makes of it is the same
  have hafter : (s.perform o).1.deliver? m =
      (s.deliver? m).map fun t => (t.perform o).1 := by
    rw [deliver?_eq, deliver?_eq, h.getElem?_perform, (perform_sameFrame s o).id_eq]
    split
    · rw [Option.map_map]
      refine congrArg (Option.map · _) (funext fun y => ?_)
      rw [Function.comp_apply, h.perform_setSlot]
    · rfl
  have hmessage : ∀ u : Session, u.perform (.deliver m) =
      ((u.deliver? m).getD u, .delivered (u.deliver? m).isSome) := fun u => rfl
  rw [hmessage, hmessage, hafter]
  cases hm : s.deliver? m with
  | none => exact ⟨rfl, rfl, rfl⟩
  | some t =>
    obtain ⟨-, _, y, -, -, rfl⟩ := deliver?_eq_some_iff.1 hm
    have hanswer : ((s.setSlot m.index y).perform o).2 = (s.perform o).2 := by
      rw [h.perform_setSlot]
    exact ⟨rfl, hanswer, rfl⟩

/-! ### Rows of messages -/

/-- Among messages for different parameters each gets the answer that it would get alone. -/
lemma answers_deliver {ms : List Message} (h : (ms.map Message.index).Nodup) (s : Session) :
    (s.trace (ms.map .deliver)).map Prod.snd =
      ms.map fun m => Answer.delivered (s.deliver? m).isSome := by
  induction ms generalizing s with
  | nil => rfl
  | cons m ms ih =>
    obtain ⟨hm, hms⟩ := List.nodup_cons.1 h
    simp only [List.map_cons, trace]
    rw [ih hms]
    refine congrArg₂ List.cons rfl (List.map_congr_left fun m' hm' => ?_)
    have hne : m.index ≠ m'.index := fun heq => hm (heq ▸ List.mem_map_of_mem hm')
    exact (commute_deliver (ignores_deliver (Ne.symm hne)) s).2.1

lemma after_deliver_perm {ms ms' : List Message} (hp : ms.Perm ms')
    (h : (ms.map Message.index).Nodup) (s : Session) :
    s.after (ms.map .deliver) = s.after (ms'.map .deliver) := by
  simp only [after, List.foldl_map]
  -- neighbours in the fold can be swapped, unless they are the same message
  refine hp.foldl_eq' (fun m hm m' hm' u => ?_) s
  by_cases heq : m = m'
  · rw [heq]
  · have hne : m.index ≠ m'.index := fun hi => heq (List.inj_on_of_nodup_map h hm hm' hi)
    exact (commute_deliver (ignores_deliver (Ne.symm hne)) u).1

/-- Jobs may report in any order: messages for different parameters lead to the same session in
every order, and each gets the same answer.  A message can also change places with every edit of
another parameter and with every move of the focus, whether or not these are accepted. -/
theorem reports_commute :
    (∀ (s : Session) (ms ms' : List Message), ms.Perm ms' → (ms.map Message.index).Nodup →
      s.after (ms.map .deliver) = s.after (ms'.map .deliver) ∧
        (ms.zip ((s.trace (ms.map .deliver)).map Prod.snd)).Perm
          (ms'.zip ((s.trace (ms'.map .deliver)).map Prod.snd))) ∧
      (∀ (m : Message) (j : Nat) (e : Edit), j ≠ m.index →
        Operation.Commute (.deliver m) (.edit j e)) ∧
      ∀ m : Message, Operation.Commute (.deliver m) .focusNext ∧
        Operation.Commute (.deliver m) .focusPrev := by
  refine ⟨fun s ms ms' hp h => ⟨after_deliver_perm hp h s, ?_⟩,
    fun m j e h => commute_deliver (ignores_edit h e),
    fun m => ⟨commute_deliver (ignores_focusNext _), commute_deliver (ignores_focusPrev _)⟩⟩
  have h' : (ms'.map Message.index).Nodup := (hp.map _).nodup_iff.1 h
  rw [answers_deliver h, answers_deliver h', List.zip_map_right, List.zip_map_right]
  simpa [List.zip, List.zipWith_self] using hp.map _

/-- Two jobs report in both orders, one with an option and one with a failure, and the report of
the first changes places with an edit of the second parameter. -/
theorem reports_commute_two_jobs :
    let s := withParameters 1 [] [⟨['a'], .dynamic, [], [], []⟩, ⟨['b'], .dynamic, ['d'], [], []⟩]
    let m : Message := ⟨1, 0, .options [['u'], ['v']]⟩
    let m' : Message := ⟨1, 1, .failed .signal⟩
    [m, m'].Perm [m', m] ∧ ([m, m'].map Message.index).Nodup ∧
      s.after [.deliver m, .deliver m'] = s.after [.deliver m', .deliver m] ∧
      (s.after [.deliver m, .deliver m']).slots.map Slot.value = [['u'], ['d']] ∧
      1 ≠ m.index ∧ Operation.Commute (.deliver m) (.edit 1 (.push 'c')) := by
  intro s m m'
  have hperm : [m, m'].Perm [m', m] := List.Perm.swap m' m []
  have hnodup : ([m, m'].map Message.index).Nodup := by decide
  have hne : 1 ≠ m.index := by decide
  exact ⟨hperm, hnodup, (reports_commute.1 s _ _ hperm hnodup).1, by decide, hne,
    reports_commute.2.1 m 1 (.push 'c') hne⟩

end Session

end TemplateFill
