import TemplateFill.Proofs.Session.Operation

/-!
# Looking for options

A list of options is looked into by place, and the place one step from a cursor is a remainder by
the length of the list.  In the readings of the operations below a look behind the end of a list
and a step through a list without members have no result, and neither has an operation that comes
to one of them.

* `Slot.editChecked_eq` and `Slot.settleChecked_eq`: a slot finds every option that it looks for.
* `Session.traceChecked_eq`: so does every operation of every run, and the two readings of a run
  are the same.
-/

namespace TemplateFill

/-- The place one step from `cursor`, if there are any places. -/
def Direction.step? (d : Direction) (cursor size : Nat) : Option Nat :=
  if size = 0 then none else some (d.step cursor size)

lemma Direction.step?_eq (d : Direction) (cursor : Nat) {size : Nat} (h : 0 < size) :
    d.step? cursor size = some (d.step cursor size) :=
  if_neg (Nat.ne_of_gt h)

namespace Slot

variable {s : Slot}

/-- The list that the cursor of a slot points into. -/
def pointedList (s : Slot) : List Text :=
  match s.stage with
  | .resolved os => os
  | _ => s.parameter.options

/-- The slot with its cursor at a place, if there is an option at that place. -/
def point? (s : Slot) (place : Nat) : Option Slot :=
  (s.pointedList[place]?).map fun value => { s with value := value, cursor := place }

/-- The number of options through which the cursor of a slot can move. -/
def room (s : Slot) : Except Refusal Nat :=
  match s.options? with
  | none => .error (if s.stage = .loading then .stillLoading s.name else .isNotList s.name)
  | some [] => .error (.noOptions s.name)
  | some os => .ok os.length

/-- The slot after an edit, if every option that the edit looks for is there. -/
def editChecked (s : Slot) : Edit → Option (Except Refusal Slot)
  | .move d =>
    match s.room with
    | .error r => some (.error r)
    | .ok size => (d.step? s.cursor size).bind fun place => (s.point? place).map .ok
  | .select k =>
    match s.room with
    | .error r => some (.error r)
    | .ok size =>
      if size ≤ k then some (.error (.outOfRange s.name k size)) else (s.point? k).map .ok
  | e => some (s.edit e)

/-- The slot after an outcome, if the option that is chosen is there. -/
def settleChecked (s : Slot) (o : Outcome) : Option (Option Slot) :=
  match o with
  | .options (o :: os) =>
    if s.stage ≠ .loading then some none
    else
      let place := (s.parameter.defaultIndex? (o :: os)).getD 0
      ((o :: os)[place]?).map fun value =>
        some { s with stage := .resolved (o :: os), value := value, cursor := place }
  | o => some (s.settle o)

lemma pointedList_of_options? {os : List Text} (h : s.options? = some os) :
    s.pointedList = os := by
  rcases options?_cases h with hres | ⟨hres, -, hos⟩
  · simp [pointedList, hres]
  · unfold pointedList
    split
    · rename_i os' hos'
      exact absurd hos' (hres os')
    · exact hos

lemma point?_eq {os : List Text} (h : s.options? = some os) (place : Fin os.length) :
    s.point? place = some (s.choose os place) := by
  simp [point?, pointedList_of_options? h, choose]

/-- An edit finds every option that it looks for. -/
theorem editChecked_eq (s : Slot) (e : Edit) : s.editChecked e = some (s.edit e) := by
  cases hos : s.options? with
  | none => cases e <;> simp [editChecked, edit, editList, room, hos]
  | some os =>
    rcases os with _ | ⟨o, os⟩
    · cases e <;> simp [editChecked, edit, editList, room, hos]
    · have hpos : 0 < (o :: os).length := by simp
      have hroom : s.room = .ok (o :: os).length := by simp [room, hos]
      cases e with
      | move d =>
        have hpoint := point?_eq hos ⟨_, d.step_lt s.cursor hpos⟩
        simp only [editChecked, hroom, Direction.step?, if_neg (Nat.ne_of_gt hpos), Option.bind_some]
        simp only [hpoint, edit, editList, hos, dif_pos hpos, Option.map_some, Except.map]
      | select k =>
        by_cases hk : k < (o :: os).length
        · have hpoint := point?_eq hos ⟨k, hk⟩
          simp only [editChecked, hroom, if_neg (Nat.not_le.2 hk)]
          simp only [hpoint, edit, editList, hos, dif_pos hpos, dif_pos hk, Option.map_some,
            Except.map]
        · simp only [editChecked, hroom, if_pos (Nat.not_lt.1 hk)]
          simp only [edit, editList, hos, dif_pos hpos, dif_neg hk, Except.map]
      | setText u => rfl
      | push c => rfl
      | pop => rfl

/-- An outcome finds the option that it chooses. -/
theorem settleChecked_eq (s : Slot) (o : Outcome) : s.settleChecked o = some (s.settle o) := by
  rcases o with os | why
  · rcases os with _ | ⟨o, os⟩
    · rfl
    · by_cases hs : s.stage = .loading
      · have hne : o :: os ≠ [] := List.cons_ne_nil o os
        have hlt := s.parameter.defaultIndex?_getD_lt hne
        rw [settle_options hs hne]
        simp only [settleChecked, hs, ne_eq, not_true_eq_false, if_false,
          List.getElem?_eq_getElem hlt, Option.map_some, resolve, List.get_eq_getElem]
      · rw [settle_of_ne hs]
        simp [settleChecked, hs]
  · rfl

end Slot

namespace Session

/-- The session after a message, if the option that is chosen is there. -/
def deliverChecked (s : Session) (m : Message) : Option (Option Session) :=
  if m.session = s.id then
    match s.slots[m.index]? with
    | none => some none
    | some x => (x.settleChecked m.outcome).map fun y => y.map (s.setSlot m.index)
  else some none

/-- The session after an edit, if every option that the edit looks for is there. -/
def editChecked (s : Session) (i : Nat) (e : Edit) : Option (Except Refusal Session) :=
  match s.slots[i]? with
  | none => some (.error (.unknownParameter i))
  | some x => (x.editChecked e).map fun y => y.map (s.setSlot i)

/-- The session after a move of the focus, if there is a slot to go to. -/
def shiftChecked (s : Session) (d : Direction) : Option Session :=
  if s.slots.isEmpty then some s
  else (d.step? s.focus s.size).map fun place => { s with focus := place }

/-- The session after a confirmation, if there is a slot for the focus to go to. -/
def confirmChecked (s : Session) : Option (Session × Option Ending) :=
  if s.isReady then some (s, some (.submitted s.preview))
  else (s.shiftChecked .next).map fun t => (t, none)

/-- The session after an input, if everything that the input looks for is there. -/
def takeChecked (s : Session) (i : Input) : Option (Session × Option Ending) :=
  match i.request with
  | .focusNext => (s.shiftChecked .next).map fun t => (t, none)
  | .focusPrev => (s.shiftChecked .prev).map fun t => (t, none)
  | .confirm => s.confirmChecked
  | .cancel => some (s, some .cancelled)
  | .edit e confirm => do
    match ← s.editChecked s.focus e with
    | .error _ => return (s, none)
    | .ok t => if confirm then t.confirmChecked else return (t, none)

/-- The session after an operation and the answer to it, if everything that the operation looks
for is there. -/
def performChecked (s : Session) : Operation → Option (Session × Answer)
  | .deliver m => (s.deliverChecked m).map fun t => (t.getD s, .delivered t.isSome)
  | .edit i e => do
    match ← s.editChecked i e with
    | .ok t => return (t, .edited none)
    | .error r => return (s, .edited (some r))
  | .focusNext => (s.shiftChecked .next).map fun t => (t, .moved)
  | .focusPrev => (s.shiftChecked .prev).map fun t => (t, .moved)
  | .step (.input i) => (s.takeChecked i).map fun r => (r.1, .stepped r.2)
  | .step (.report m) => (s.deliverChecked m).map fun t => (t.getD s, .stepped none)

/-- A run, if everything that its operations look for is there. -/
def traceChecked (s : Session) : List Operation → Option (List (Session × Answer))
  | [] => some []
  | o :: ops => do
    let r ← s.performChecked o
    let rest ← r.1.traceChecked ops
    return r :: rest

lemma deliverChecked_eq (s : Session) (m : Message) :
    s.deliverChecked m = some (s.deliver? m) := by
  rw [deliver?_eq, deliverChecked]
  split
  · cases hx : s.slots[m.index]? with
    | none => rfl
    | some x => simp only [x.settleChecked_eq, Option.map_some, Option.bind_some]
  · rfl

lemma editChecked_eq (s : Session) (i : Nat) (e : Edit) :
    s.editChecked i e = some (s.edit i e) := by
  rw [editChecked, Session.edit]
  cases hx : s.slots[i]? with
  | none => rfl
  | some x =>
    simp only [x.editChecked_eq, Option.map_some]
    rfl

lemma shiftChecked_eq (s : Session) (d : Direction) : s.shiftChecked d = some (s.shift d) := by
  by_cases h : s.slots.isEmpty
  · rw [shift_of_nil h, shiftChecked, if_pos h]
  · rw [shift_of_ne h, shiftChecked, if_neg h, d.step?_eq s.focus (size_pos h), Option.map_some]

lemma confirmChecked_eq (s : Session) : s.confirmChecked = some s.confirm := by
  rw [confirmChecked, confirm]
  split
  · rfl
  · rw [shiftChecked_eq, Option.map_some, focusNext_eq]

lemma takeChecked_eq (s : Session) (i : Input) : s.takeChecked i = some (s.take i) := by
  unfold takeChecked take
  cases i.request with
  | focusNext => exact congrArg (Option.map (·, none)) (shiftChecked_eq s .next)
  | focusPrev => exact congrArg (Option.map (·, none)) (shiftChecked_eq s .prev)
  | confirm => exact confirmChecked_eq s
  | cancel => rfl
  | edit e confirm =>
    simp only [editChecked_eq, Option.bind_eq_bind, Option.bind_some]
    cases s.edit s.focus e with
    | error r => rfl
    | ok t =>
      cases confirm with
      | false => rfl
      | true => exact confirmChecked_eq t

/-- An operation finds everything that it looks for. -/
theorem performChecked_eq (s : Session) (o : Operation) :
    s.performChecked o = some (s.perform o) := by
  cases o with
  | deliver m => rw [performChecked, deliverChecked_eq]; rfl
  | edit i e =>
    rw [performChecked, editChecked_eq]
    cases h : s.edit i e with
    | error r => rw [perform_edit_of_error h]; rfl
    | ok t => rw [perform_edit_of_ok h]; rfl
  | focusNext => rw [performChecked, shiftChecked_eq]; rfl
  | focusPrev => rw [performChecked, shiftChecked_eq]; rfl
  | step e =>
    cases e with
    | input i => rw [performChecked, takeChecked_eq]; rfl
    | report m => rw [performChecked, deliverChecked_eq]; rfl

/-- Every operation of a run finds everything that it looks for. -/
theorem traceChecked_eq (s : Session) (ops : List Operation) :
    s.traceChecked ops = some (s.trace ops) := by
  induction ops generalizing s with
  | nil => rfl
  | cons o ops ih =>
    rw [traceChecked, performChecked_eq, Option.bind_eq_bind, Option.bind_some, ih]
    rfl

end Session

end TemplateFill
