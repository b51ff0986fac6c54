import Mathlib.Logic.Relation
import TemplateFill.Proofs.Session.Slot
import TemplateFill.Session.Loop

/-!
# Operations on a session, and runs of them

Whoever holds a session can deliver a message to it, edit a parameter, move the focus, or let its
loop take an event, in any order and as often as he likes.  `Session.after` is the session after a
row of such operations, and `Session.trace` says what each of them did and answered.

All of them come down to two kinds of move: one slot turns into another, or the focus goes one slot
on or back (`Session.perform_moves`).  What the moves keep, every run keeps (`Session.after_preserves`).
-/

namespace TemplateFill

/-- What can be asked of a session. -/
inductive Operation where
  /-- A message arrives. -/
  | deliver (m : Message)
  /-- The parameter at a place is edited. -/
  | edit (index : Nat) (e : Edit)
  | focusNext
  | focusPrev
  /-- The loop of the session takes an event. -/
  | step (e : Event)
  deriving DecidableEq, Repr

/-- What an operation answers. -/
inductive Answer where
  /-- Whether the message had any effect. -/
  | delivered (effect : Bool)
  /-- Why the edit was refused, if it was. -/
  | edited (refusal : Option Refusal)
  | moved
  /-- How the session ended, if it did. -/
  | stepped (ending : Option Ending)
  deriving DecidableEq, Repr

namespace Session

variable {s t : Session}

/-! ### Slots by their places -/

/-- The session with another slot at a place. -/
def setSlot (s : Session) (i : Nat) (x : Slot) : Session := { s with slots := s.slots.set i x }

@[simp] lemma id_setSlot (s : Session) (i : Nat) (x : Slot) : (s.setSlot i x).id = s.id := rfl

@[simp] lemma focus_setSlot (s : Session) (i : Nat) (x : Slot) :
    (s.setSlot i x).focus = s.focus := rfl

@[simp] lemma size_setSlot (s : Session) (i : Nat) (x : Slot) : (s.setSlot i x).size = s.size := by
  simp [size, setSlot]

lemma getElem?_setSlot_ne {i j : Nat} (h : i ≠ j) (s : Session) (x : Slot) :
    (s.setSlot i x).slots[j]? = s.slots[j]? := by
  simp [setSlot, List.getElem?_set_ne h]

lemma getElem?_setSlot_self {i : Nat} {x : Slot} (h : s.slots[i]? = some x) (y : Slot) :
    (s.setSlot i y).slots[i]? = some y := by
  have hi : i < s.slots.length := (List.getElem?_eq_some_iff.1 h).1
  simp [setSlot, List.getElem?_set_self hi]

lemma setSlot_comm {i j : Nat} (h : i ≠ j) (s : Session) (x y : Slot) :
    (s.setSlot i x).setSlot j y = (s.setSlot j y).setSlot i x := by
  simp [setSlot, List.set_comm _ _ h]

/-! ### The focus -/

lemma size_pos (h : ¬ s.slots.isEmpty) : 0 < s.size := by
  rw [List.isEmpty_iff] at h
  exact List.length_pos_iff.2 h

/-- The focus goes to the neighbouring slot in a direction, from either end on to the other. -/
def shift (s : Session) (d : Direction) : Session :=
  if s.slots.isEmpty then s else { s with focus := d.step s.focus s.size }

lemma focusNext_eq (s : Session) : s.focusNext = s.shift .next := rfl

lemma shift_of_nil (h : s.slots.isEmpty) (d : Direction) : s.shift d = s := if_pos h

lemma shift_of_ne (h : ¬ s.slots.isEmpty) (d : Direction) :
    s.shift d = { s with focus := d.step s.focus s.size } := if_neg h

@[simp] lemma id_shift (s : Session) (d : Direction) : (s.shift d).id = s.id := by
  unfold shift; split <;> rfl

@[simp] lemma template_shift (s : Session) (d : Direction) :
    (s.shift d).template = s.template := by
  unfold shift; split <;> rfl

@[simp] lemma slots_shift (s : Session) (d : Direction) : (s.shift d).slots = s.slots := by
  unfold shift; split <;> rfl

lemma isEmpty_setSlot (s : Session) (i : Nat) (x : Slot) :
    (s.setSlot i x).slots.isEmpty ↔ s.slots.isEmpty := by
  simp only [List.isEmpty_iff_length_eq_zero, setSlot, List.length_set]

lemma shift_setSlot (s : Session) (i : Nat) (x : Slot) (d : Direction) :
    (s.setSlot i x).shift d = (s.shift d).setSlot i x := by
  by_cases h : s.slots.isEmpty
  · rw [shift_of_nil h, shift_of_nil ((isEmpty_setSlot s i x).2 h)]
  · rw [shift_of_ne h, shift_of_ne (fun h' => h ((isEmpty_setSlot s i x).1 h')), size_setSlot]
    rfl

/-! ### What each operation does -/

lemma deliver?_eq (s : Session) (m : Message) :
    s.deliver? m =
      if m.session = s.id then
        (s.slots[m.index]?.bind fun x => x.settle m.outcome).map (s.setSlot m.index)
      else none := by
  by_cases hid : m.session = s.id
  · rw [deliver?, guard, if_pos hid, if_pos hid]
    cases hx : s.slots[m.index]? with
    | none => rfl
    | some x => cases hy : x.settle m.outcome <;> simp [hy, setSlot]
  · rw [deliver?, guard, if_neg hid, if_neg hid]
    rfl

/-- A message has an effect if it is for this session and its slot settles. -/
lemma deliver?_eq_some_iff {m : Message} :
    s.deliver? m = some t ↔
      m.session = s.id ∧ ∃ x y, s.slots[m.index]? = some x ∧ x.settle m.outcome = some y ∧
        t = s.setSlot m.index y := by
  rw [deliver?_eq]
  by_cases hid : m.session = s.id
  · simp only [hid, if_true, Option.map_eq_some_iff, Option.bind_eq_some_iff, true_and]
    constructor
    · rintro ⟨y, ⟨x, hx, hy⟩, rfl⟩
      exact ⟨x, y, hx, hy, rfl⟩
    · rintro ⟨x, y, hx, hy, rfl⟩
      exact ⟨y, ⟨x, hx, hy⟩, rfl⟩
  · simp [hid]

/-- An edit is accepted if there is a slot at its place and the slot accepts it. -/
lemma edit_eq_ok_iff {i : Nat} {e : Edit} :
    s.edit i e = .ok t ↔
      ∃ x y, s.slots[i]? = some x ∧ x.edit e = .ok y ∧ t = s.setSlot i y := by
  unfold edit
  cases hx : s.slots[i]? with
  | none => simp
  | some x =>
    cases hy : x.edit e with
    | error r => simp [hy, Except.map]
    | ok y => simp [hy, Except.map, setSlot, eq_comm]

lemma edit_eq_error {i : Nat} {x : Slot} {e : Edit} {r : Refusal} (hx : s.slots[i]? = some x)
    (h : x.edit e = .error r) : s.edit i e = .error r := by
  simp [edit, hx, h, Except.map]

/-- The session after an operation, and the answer to it. -/
def perform (s : Session) : Operation → Session × Answer
  | .deliver m => (s.deliver m, .delivered (s.deliver? m).isSome)
  | .edit i e =>
    match s.edit i e with
    | .ok t => (t, .edited none)
    | .error r => (s, .edited (some r))
  | .focusNext => (s.focusNext, .moved)
  | .focusPrev => (s.focusPrev, .moved)
  | .step e => ((s.step e).1, .stepped (s.step e).2)

lemma perform_edit_of_ok {i : Nat} {e : Edit} (h : s.edit i e = .ok t) :
    s.perform (.edit i e) = (t, .edited none) := by
  simp [perform, h]

lemma perform_edit_of_error {i : Nat} {e : Edit} {r : Refusal} (h : s.edit i e = .error r) :
    s.perform (.edit i e) = (s, .edited (some r)) := by
  simp [perform, h]

/-- The session after a row of operations. -/
def after (s : Session) (ops : List Operation) : Session :=
  ops.foldl (fun s o => (s.perform o).1) s

/-- The session after each of a row of operations, and the answer to it. -/
def trace (s : Session) : List Operation → List (Session × Answer)
  | [] => []
  | o :: ops => s.perform o :: (s.perform o).1.trace ops

@[simp] lemma after_nil (s : Session) : s.after [] = s := rfl

@[simp] lemma after_cons (s : Session) (o : Operation) (ops : List Operation) :
    s.after (o :: ops) = (s.perform o).1.after ops := rfl

lemma after_append (s : Session) (ops ops' : List Operation) :
    s.after (ops ++ ops') = (s.after ops).after ops' := by
  simp [after]

/-! ### Moves -/

/-- One move of a session. -/
inductive Moves : Session → Session → Prop where
  | slot {s : Session} {i : Nat} {x y : Slot} (hx : s.slots[i]? = some x) (h : x.Becomes y) :
      Moves s (s.setSlot i y)
  | shift (s : Session) (d : Direction) : Moves s (s.shift d)

open Relation (ReflTransGen)

lemma moves_of_deliver {m : Message} (h : s.deliver? m = some t) : Moves s t := by
  obtain ⟨-, x, y, hx, hy, rfl⟩ := deliver?_eq_some_iff.1 h
  exact .slot hx (.settle hy)

lemma moves_of_edit {i : Nat} {e : Edit} (h : s.edit i e = .ok t) : Moves s t := by
  obtain ⟨x, y, hx, hy, rfl⟩ := edit_eq_ok_iff.1 h
  exact .slot hx (.edit hy)

lemma deliver_moves (s : Session) (m : Message) : ReflTransGen Moves s (s.deliver m) := by
  unfold deliver
  cases h : s.deliver? m with
  | none => exact .refl
  | some t => exact .single (moves_of_deliver h)

lemma confirm_moves (s : Session) : ReflTransGen Moves s s.confirm.1 := by
  unfold confirm
  split
  · exact .refl
  · exact .single (.shift s .next)

lemma take_moves (s : Session) (i : Input) : ReflTransGen Moves s (s.take i).1 := by
  unfold take
  split
  · exact .single (.shift s .next)
  · exact .single (.shift s .prev)
  · exact confirm_moves s
  · exact .refl
  · split
    · exact .refl
    · rename_i t ht
      split
      · exact .head (moves_of_edit ht) (confirm_moves t)
      · exact .single (moves_of_edit ht)

/-- Every operation comes down to moves. -/
theorem perform_moves (s : Session) (o : Operation) : ReflTransGen Moves s (s.perform o).1 := by
  cases o with
  | deliver m => exact deliver_moves s m
  | edit i e =>
    cases h : s.edit i e with
    | error r => rw [perform_edit_of_error h]
    | ok t => rw [perform_edit_of_ok h]; exact .single (moves_of_edit h)
  | focusNext => exact .single (.shift s .next)
  | focusPrev => exact .single (.shift s .prev)
  | step e =>
    cases e with
    | input i => exact take_moves s i
    | report m => exact deliver_moves s m

theorem after_moves (s : Session) (ops : List Operation) : ReflTransGen Moves s (s.after ops) := by
  induction ops generalizing s with
  | nil => exact .refl
  | cons o ops ih => exact (perform_moves s o).trans (ih _)

/-- What every move keeps, every run keeps. -/
theorem after_preserves {P : Session → Prop} (hP : ∀ {s t}, Moves s t → P s → P t)
    (h : P s) (ops : List Operation) : P (s.after ops) := by
  have hmoves := after_moves s ops
  generalize s.after ops = t at hmoves ⊢
  induction hmoves with
  | refl => exact h
  | tail _ hmove ih => exact hP hmove ih

/-! ### What no move changes -/

/-- The parameters of the slots. -/
def parameters (s : Session) : List Parameter := s.slots.map Slot.parameter

@[simp] lemma length_parameters (s : Session) : s.parameters.length = s.size := by
  simp [parameters, size]

@[simp] lemma parameters_withParameters (n : Nat) (template : Text) (ps : List Parameter) :
    (withParameters n template ps).parameters = ps := by
  simp [parameters, withParameters, Function.comp_def]

/-- Two stages of one session: they have the same number, template and parameters. -/
structure SameFrame (s t : Session) : Prop where
  id_eq : t.id = s.id
  template_eq : t.template = s.template
  parameters_eq : t.parameters = s.parameters

lemma SameFrame.refl (s : Session) : SameFrame s s := ⟨rfl, rfl, rfl⟩

lemma SameFrame.trans {u : Session} (h : SameFrame s t) (h' : SameFrame t u) : SameFrame s u :=
  ⟨h'.1.trans h.1, h'.2.trans h.2, h'.3.trans h.3⟩

lemma Moves.sameFrame (h : Moves s t) : SameFrame s t := by
  cases h with
  | slot hx hy =>
    refine ⟨rfl, rfl, ?_⟩
    rename_i i x y
    obtain ⟨hi, hxi⟩ := List.getElem?_eq_some_iff.1 hx
    -- the parameter that is written at the place is the one that stands there
    have hset : (s.slots.map Slot.parameter).set i y.parameter = s.slots.map Slot.parameter := by
      rw [hy.parameter_eq, ← hxi, ← List.map_set, List.set_getElem_self]
    simpa [parameters, setSlot, List.map_set] using hset
  | shift => exact ⟨id_shift .., template_shift .., by simp [parameters]⟩

/-- A run changes neither the number of a session nor its template nor its parameters. -/
theorem after_sameFrame (s : Session) (ops : List Operation) : SameFrame s (s.after ops) :=
  after_preserves (P := SameFrame s) (fun hm h => h.trans hm.sameFrame) (SameFrame.refl s) ops

lemma size_after (s : Session) (ops : List Operation) : (s.after ops).size = s.size := by
  rw [← length_parameters, (after_sameFrame s ops).parameters_eq, length_parameters]

lemma perform_sameFrame (s : Session) (o : Operation) : SameFrame s (s.perform o).1 :=
  after_sameFrame s [o]

end Session

end TemplateFill
