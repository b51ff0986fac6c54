import Mathlib.Data.Int.ModEq
import TemplateFill.Proofs.Session.Delivery
import TemplateFill.Proofs.Session.Permission
import TemplateFill.Proofs.Session.Step

/-!
# Going round a list

A step through a list of options adds one to the place of the cursor or takes one off, modulo the
length of the list (`Direction.step_eq_emod`).  So of a row of steps only the numbers of steps in the
two directions count (`Direction.net`).

In a session other things happen between two steps: other parameters are edited, the focus moves, and
messages come in late.  None of them touches a list that is there (`Session.slot_perform_of_ne`), so
the steps through it add up over a run (`Session.Turns.slot_eq`).

* `Session.exists_turns_iff`: a run comes down to steps through a list if it edits the list in no other
  way.
* `Session.cursor_turns`: where the cursor of the list is after such a run.
-/

namespace TemplateFill

namespace Direction

variable {cursor size : Nat}

/-- What a step adds to the place of the cursor. -/
def delta : Direction → ℤ
  | .next => 1
  | .prev => -1

/-- What a row of steps adds to the place of the cursor. -/
def net (ds : List Direction) : ℤ := ds.count .next - ds.count .prev

lemma net_nil : net [] = 0 := rfl

lemma net_cons (d : Direction) (ds : List Direction) : net (d :: ds) = d.delta + net ds := by
  cases d with
  | next =>
    have hprev : (Direction.next :: ds).count .prev = ds.count .prev :=
      List.count_cons_of_ne (by decide)
    rw [net, net, List.count_cons_self, hprev, delta]
    omega
  | prev =>
    have hnext : (Direction.prev :: ds).count .next = ds.count .next :=
      List.count_cons_of_ne (by decide)
    rw [net, net, List.count_cons_self, hnext, delta]
    omega

lemma net_replicate (d : Direction) (n : Nat) : net (List.replicate n d) = n * d.delta := by
  induction n with
  | zero => simp [net_nil]
  | succ n ih =>
    rw [List.replicate_succ, net_cons, ih, Int.natCast_succ, Int.add_mul, Int.one_mul, Int.add_comm]

lemma net_eq_of_perm {ds ds' : List Direction} (h : ds.Perm ds') : net ds = net ds' := by
  rw [net, net, h.count_eq, h.count_eq]

/-- A step goes to the next place or to the previous one, modulo the size of the list. -/
lemma step_eq_emod (d : Direction) (h : 0 < size) (cursor : Nat) :
    (d.step cursor size : ℤ) = (cursor + d.delta) % size := by
  cases d with
  | next =>
    rw [step, delta]
    push_cast
    rfl
  | prev =>
    -- the size that is added keeps the difference from being negative
    have hsub : ((cursor + size - 1 : Nat) : ℤ) = cursor + -1 + size := by omega
    rw [step, delta, Int.natCast_emod, hsub, Int.add_emod_right]

end Direction

namespace Session

variable {s t : Session} {o : Operation} {i j : Nat} {e : Edit} {d : Direction} {x : Slot}
  {os : List Text} {ops : List Operation} {ds : List Direction}

/-! ### Which parameter an operation edits -/

/-- The parameter that an operation edits, and the edit.  An input edits the one that has the focus. -/
def edited? (s : Session) : Operation → Option (Nat × Edit)
  | .edit i e => some (i, e)
  | .step (.input u) =>
    match u.request with
    | .edit e _ => some (s.focus, e)
    | _ => none
  | _ => none

lemma edited?_input {u : Input} (h : s.edited? (.step (.input u)) = some (i, e)) :
    i = s.focus ∧ ∃ confirm, u.request = .edit e confirm := by
  rw [edited?] at h
  split at h
  · rename_i e' confirm hu
    obtain ⟨rfl, rfl⟩ := Prod.mk.inj (Option.some.inj h)
    exact ⟨rfl, confirm, hu⟩
  · exact absurd h (by simp)

/-- An accepted edit is all that becomes of the slots. -/
lemma slots_perform_of_ok (h : s.edited? o = some (i, e)) (ht : s.edit i e = .ok t) :
    (s.perform o).1.slots = t.slots := by
  cases o with
  | edit j e' =>
    obtain ⟨rfl, rfl⟩ := Prod.mk.inj (Option.some.inj h)
    rw [perform_edit_of_ok ht]
  | step event =>
    cases event with
    | input u =>
      obtain ⟨rfl, confirm, hu⟩ := edited?_input h
      simp only [perform, step, take, hu, ht]
      cases confirm with
      | true => exact slots_confirm t
      | false => rfl
    | report m => exact absurd h (by simp [edited?])
  | _ => exact absurd h (by simp [edited?])

/-- A refused edit leaves the session as it is. -/
lemma perform_of_error {r : Refusal} (h : s.edited? o = some (i, e)) (hr : s.edit i e = .error r) :
    (s.perform o).1 = s := by
  cases o with
  | edit j e' =>
    obtain ⟨rfl, rfl⟩ := Prod.mk.inj (Option.some.inj h)
    rw [perform_edit_of_error hr]
  | step event =>
    cases event with
    | input u =>
      obtain ⟨rfl, confirm, hu⟩ := edited?_input h
      rw [perform, step_of_refused hu hr]
    | report m => exact absurd h (by simp [edited?])
  | _ => exact absurd h (by simp [edited?])

/-- An operation that neither edits a slot nor brings a message moves the focus at most. -/
lemma slots_perform_of_none (h : s.edited? o = none) (hm : o.message? = none) :
    (s.perform o).1.slots = s.slots := by
  cases o with
  | deliver m => exact absurd hm (by simp [Operation.message?])
  | edit j e' => exact absurd h (by simp [edited?])
  | focusNext => exact slots_shift s .next
  | focusPrev => exact slots_shift s .prev
  | step event =>
    cases event with
    | report m => exact absurd hm (by simp [Operation.message?])
    | input u =>
      simp only [perform, step, take]
      split
      · exact slots_shift s .next
      · exact slots_shift s .prev
      · exact slots_confirm s
      · rfl
      · rename_i hu
        exact absurd h (by simp [edited?, hu])

/-- A message does not change a slot that does not wait. -/
lemma slot_deliver_of_ne (hx : s.slots[i]? = some x) (hstage : x.stage ≠ .loading) (m : Message) :
    (s.deliver m).slots[i]? = some x := by
  by_cases hi : i = m.index
  · have hnone : s.deliver? m = none := by
      rw [hi] at hx
      rw [deliver?_eq, hx, Option.bind_some, Slot.settle_of_ne hstage]
      simp
    rw [deliver, hnone]
    exact hx
  · rw [slot_deliver hi]
    exact hx

/-- A slot that does not wait is changed by no operation but one that edits it. -/
theorem slot_perform_of_ne (hx : s.slots[i]? = some x) (hstage : x.stage ≠ .loading)
    (h : (s.edited? o).map Prod.fst ≠ some i) : (s.perform o).1.slots[i]? = some x := by
  cases hm : o.message? with
  | some m =>
    rw [perform_of_message hm]
    exact slot_deliver_of_ne hx hstage m
  | none =>
    cases he : s.edited? o with
    | none =>
      rw [slots_perform_of_none he hm]
      exact hx
    | some edited =>
      -- another slot is edited, or the edit of it is refused
      obtain ⟨j, e⟩ := edited
      have hij : i ≠ j := fun hij => h (by rw [he, hij]; rfl)
      cases ht : s.edit j e with
      | ok t =>
        rw [slots_perform_of_ok he ht, slot_of_edit ht hij]
        exact hx
      | error r =>
        rw [perform_of_error he ht]
        exact hx

/-! ### Steps through a list -/

/-- In a row of operations the parameter at a place is edited by steps of its cursor only.  Whatever
else the operations do comes between the steps. -/
inductive Turns (i : Nat) : Session → List Operation → List Direction → Prop
  | nil (s : Session) : Turns i s [] []
  | step {s : Session} {o : Operation} {d : Direction} {ops : List Operation} {ds : List Direction}
      (h : s.edited? o = some (i, .move d)) (hrest : Turns i (s.perform o).1 ops ds) :
      Turns i s (o :: ops) (d :: ds)
  | other {s : Session} {o : Operation} {ops : List Operation} {ds : List Direction}
      (h : (s.edited? o).map Prod.fst ≠ some i) (hrest : Turns i (s.perform o).1 ops ds) :
      Turns i s (o :: ops) ds

/-- The steps of a row of operations are those of its two parts. -/
lemma Turns.of_append {front back : List Operation} (h : Turns i s (front ++ back) ds) :
    ∃ ds₁ ds₂, ds = ds₁ ++ ds₂ ∧ Turns i s front ds₁ ∧ Turns i (s.after front) back ds₂ := by
  induction front generalizing s ds with
  | nil => exact ⟨[], ds, rfl, .nil s, h⟩
  | cons o front ih =>
    cases h with
    | step ho hrest =>
      obtain ⟨ds₁, ds₂, rfl, hfront, hback⟩ := ih hrest
      exact ⟨_ :: ds₁, ds₂, rfl, .step ho hfront, hback⟩
    | other ho hrest =>
      obtain ⟨ds₁, ds₂, rfl, hfront, hback⟩ := ih hrest
      exact ⟨ds₁, ds₂, rfl, .other ho hfront, hback⟩

/-- A row of operations comes down to steps of the cursor of a parameter if no operation in it edits
the parameter in any other way. -/
theorem exists_turns_iff :
    (∃ ds, Turns i s ops ds) ↔ ∀ front o back, ops = front ++ o :: back →
      ∀ e, (s.after front).edited? o = some (i, e) → ∃ d, e = .move d := by
  constructor
  · rintro ⟨ds, h⟩ front o back rfl e he
    obtain ⟨-, ds₂, -, -, hback⟩ := h.of_append
    cases hback with
    | step ho _ =>
      obtain ⟨-, rfl⟩ := Prod.mk.inj (Option.some.inj (he.symm.trans ho))
      exact ⟨_, rfl⟩
    | other ho _ => exact absurd (by rw [he]; rfl) ho
  · intro h
    induction ops generalizing s with
    | nil => exact ⟨[], .nil s⟩
    | cons o ops ih =>
      obtain ⟨ds, hrest⟩ := ih fun front o' back hops => h (o :: front) o' back (by rw [hops]; rfl)
      by_cases ho : (s.edited? o).map Prod.fst = some i
      · obtain ⟨⟨j, e⟩, he, rfl⟩ := Option.map_eq_some_iff.1 ho
        obtain ⟨d, rfl⟩ := h [] o ops rfl e he
        exact ⟨d :: ds, .step he hrest⟩
      · exact ⟨ds, .other ho hrest⟩

/-- A step through a list that has options is accepted. -/
lemma edit_move (hx : s.slots[i]? = some x) (hos : x.options? = some os) (hpos : 0 < os.length)
    (d : Direction) :
    s.edit i (.move d) =
      .ok (s.setSlot i (x.choose os ⟨d.step x.cursor os.length, d.step_lt x.cursor hpos⟩)) :=
  edit_eq_ok_iff.2 ⟨x, _, hx, (Slot.Accepts.move hos hpos d).edit_eq, rfl⟩

/-- The steps through a list add up over a run. -/
theorem Turns.slot_eq (h : Turns i s ops ds) (hx : s.slots[i]? = some x)
    (hos : x.options? = some os) (hstage : x.stage ≠ .loading) (hshows : x.Shows os) :
    ∃ k : Fin os.length, ((k : Nat) : ℤ) = (x.cursor + Direction.net ds) % os.length ∧
      (s.after ops).slots[i]? = some (x.choose os k) := by
  induction h generalizing x with
  | nil s =>
    have hlt : x.cursor < os.length := Exists.fst hshows
    refine ⟨⟨x.cursor, hlt⟩, ?_, ?_⟩
    · rw [Direction.net_nil, Int.add_zero]
      exact (Int.emod_eq_of_lt (by omega) (by omega)).symm
    · rw [hshows.choose_eq rfl]
      exact hx
  | @step s o d ops ds ho _ ih =>
    obtain ⟨hlt, -⟩ := hshows
    have hpos : 0 < os.length := Nat.zero_lt_of_lt hlt
    have hedit := edit_move hx hos hpos d
    have hy := (congrArg (·[i]?) (slots_perform_of_ok ho hedit)).trans (getElem?_setSlot_self hx _)
    -- the list is the same after the step
    obtain ⟨k, hk, hslot⟩ := ih hy hos hstage (Slot.shows_choose x os _)
    refine ⟨k, ?_, hslot⟩
    rw [hk, Direction.net_cons, ← Int.add_assoc]
    exact (congrArg (fun c => (c + Direction.net ds) % (os.length : ℤ))
      (d.step_eq_emod hpos x.cursor)).trans (Int.emod_add_emod _ _ _)
  | other ho _ ih => exact ih (slot_perform_of_ne hx hstage ho) hos hstage hshows

/-- Steps that come to a multiple of the length of the list leave it as it was. -/
lemma Turns.slot_eq_self (h : Turns i s ops ds) (hx : s.slots[i]? = some x)
    (hos : x.options? = some os) (hstage : x.stage ≠ .loading) (hshows : x.Shows os)
    (hnet : (os.length : ℤ) ∣ Direction.net ds) : (s.after ops).slots[i]? = some x := by
  obtain ⟨k, hk, hslot⟩ := h.slot_eq hx hos hstage hshows
  have hlt : x.cursor < os.length := Exists.fst hshows
  obtain ⟨turns, hturns⟩ := hnet
  rw [hturns, Int.add_mul_emod_self_left, Int.emod_eq_of_lt (by omega) (by omega)] at hk
  rw [hslot, hshows.choose_eq (Int.ofNat_inj.1 hk)]

/-- Where the cursor of a list is after a run in which the list is edited by steps of the cursor only,
while other parameters are edited, the focus moves, and messages come in.

Every step on the way is accepted.  The cursor has gone round the list by as many places as there are
steps on, less those back, and the value is the option there.  So steps in the two directions undo
each other, as many equal steps as there are options come back to the start, and the order of the
steps does not matter. -/
theorem cursor_turns (hs : s.Reachable) (hx : s.slots[i]? = some x) (hos : x.options? = some os)
    (hne : os ≠ []) (h : Turns i s ops ds) :
    (∃ k : Fin os.length,
        ((k : Nat) : ℤ) = (x.cursor + ds.count .next - ds.count .prev) % os.length ∧
          (s.after ops).slots[i]? = some { x with value := os.get k, cursor := k }) ∧
      (∀ front o back d, ops = front ++ o :: back →
        (s.after front).edited? o = some (i, .move d) →
        ∃ t, (s.after front).edit i (.move d) = .ok t ∧
          (s.after (front ++ [o])).slots = t.slots ∧
          (o = .edit i (.move d) → ((s.after front).perform o).2 = .edited none)) ∧
      (ds.count .next = ds.count .prev → (s.after ops).slots[i]? = some x) ∧
      (∀ d, ds = List.replicate os.length d → (s.after ops).slots[i]? = some x) ∧
      ∀ ops' ds', Turns i s ops' ds' → ds'.Perm ds →
        (s.after ops').slots[i]? = (s.after ops).slots[i]? := by
  have hcons : x.Consistent := hs.consistent.slots x (List.mem_of_getElem? hx)
  have hstage := hcons.ne_loading_of_list hos
  have hshows := hcons.shows hos hne
  obtain ⟨k, hk, hslot⟩ := h.slot_eq hx hos hstage hshows
  refine ⟨⟨k, ?_, hslot⟩, ?_, fun hcount => ?_, fun d hd => ?_, fun ops' ds' h' hperm => ?_⟩
  · rw [hk, Direction.net, Int.add_sub_assoc]
  · rintro front o back d rfl ho
    obtain ⟨ds₁, -, -, hfront, -⟩ := h.of_append
    obtain ⟨k₁, -, hslot₁⟩ := hfront.slot_eq hx hos hstage hshows
    have hedit := edit_move hslot₁ hos k₁.pos d
    refine ⟨_, hedit, ?_, ?_⟩
    · rw [after_append, after_cons, after_nil, slots_perform_of_ok ho hedit]
    · rintro rfl
      rw [perform_edit_of_ok hedit]
  · refine h.slot_eq_self hx hos hstage hshows ?_
    rw [Direction.net, hcount, Int.sub_self]
    exact Int.dvd_zero _
  · refine h.slot_eq_self hx hos hstage hshows ?_
    rw [hd, Direction.net_replicate]
    exact Int.dvd_mul_right _ _
  · obtain ⟨k', hk', hslot'⟩ := h'.slot_eq hx hos hstage hshows
    rw [Direction.net_eq_of_perm hperm, ← hk] at hk'
    rw [hslot', hslot, Fin.ext (Int.ofNat_inj.1 hk')]

/-- Two steps back and one on through three options that a command has printed, one of the steps by an
input; between them a late message for the list comes in, the focus moves, and text is typed. -/
theorem cursor_turns_three :
    let s := (start 7 "{{b!ls}} {{n}}").after
      [.deliver ⟨7, 0, .options ["a", "b", "c"]⟩]
    let os : List Text := ["a", "b", "c"]
    let x : Slot := ⟨⟨"b", .dynamic, [], [], "ls"⟩, .resolved os, "a", 0⟩
    let ops : List Operation :=
      [.edit 0 (.move .prev), .deliver ⟨7, 0, .options ["z"]⟩, .step (.input .down), .focusNext,
        .step (.input (.char 'w')), .edit 0 (.move .prev)]
    s.Reachable ∧ s.slots[0]? = some x ∧ x.options? = some os ∧ os ≠ [] ∧
      Turns 0 s ops [.prev, .next, .prev] ∧
      (s.after ops).slots[0]? = some { x with value := "c", cursor := 2 } := by
  intro s os x ops
  have hs : s.Reachable := ⟨7, "{{b!ls}} {{n}}", _, _, rfl⟩
  have hx : s.slots[0]? = some x := by decide +kernel
  have hturns : Turns 0 s ops [.prev, .next, .prev] :=
    .step rfl (.other (by decide +kernel) (.step (by decide +kernel) (.other (by decide +kernel)
      (.other (by decide +kernel) (.step rfl (.nil _))))))
  obtain ⟨⟨k, hk, hslot⟩, -⟩ := cursor_turns hs hx rfl (by decide) hturns
  have hk2 : k = ⟨2, by decide⟩ := Fin.ext (Int.ofNat_inj.1 (hk.trans (by decide)))
  rw [hk2] at hslot
  exact ⟨hs, hx, rfl, by decide, hturns, hslot⟩

end Session

end TemplateFill
