import TemplateFill.Session.Slot
import TemplateFill.Session.Window
import TemplateFill.Template.Declarations
import TemplateFill.Template.Render

/-!
# Sessions

A session fills in one template.  It has a slot for every parameter, and one of them has the focus.
For every dynamic parameter there is a job, and the outcome of the job comes back as a message that
names the session and the slot.  A message that names another session, or no slot, or a slot that
does not wait for an outcome, changes nothing.

Sessions are told apart by their numbers, which a counter of 64 bits hands out.  It starts again
from zero after its last number.
-/

namespace TemplateFill

/-- A template that is being filled in. -/
structure Session where
  /-- The number that tells sessions apart. -/
  id : Nat
  template : Text
  slots : List Slot
  /-- The place of the slot that has the focus. -/
  focus : Nat
  deriving DecidableEq, Repr

/-- A command to be run for a dynamic parameter. -/
structure Job where
  session : Nat
  index : Nat
  name : Text
  command : Text
  deriving DecidableEq, Repr

/-- The outcome of a job, addressed to a slot of a session. -/
structure Message where
  session : Nat
  index : Nat
  outcome : Outcome
  deriving DecidableEq, Repr

/-- The message that reports the outcome of a job. -/
def Job.report (j : Job) (outcome : Outcome) : Message := ⟨j.session, j.index, outcome⟩

namespace Session

/-! ### Beginning -/

/-- A session over given parameters. -/
def withParameters (id : Nat) (template : Text) (ps : List Parameter) : Session :=
  ⟨id, template, ps.map Slot.ofParameter, 0⟩

/-- A session over the parameters that a template declares. -/
def start (id : Nat) (template : Text) : Session :=
  withParameters id template (parameters template)

/-- The jobs of a session: one for each dynamic parameter, in order. -/
def jobs (s : Session) : List Job :=
  s.slots.zipIdx.filterMap fun (slot, i) =>
    if slot.parameter.kind = .dynamic then
      some ⟨s.id, i, slot.name, slot.parameter.command⟩
    else none

/-! ### Looking at a session -/

/-- The number of parameters. -/
def size (s : Session) : Nat := s.slots.length

/-- The place of the first parameter of a name. -/
def indexOf? (s : Session) (name : Text) : Option Nat :=
  s.slots.findIdx? (·.name = name)

/-- The number of parameters that wait for an outcome. -/
def pending (s : Session) : Nat := s.slots.countP (·.stage = .loading)

/-- The window of options that is shown of a list. -/
def window? (s : Session) (index height : Nat) : Option Window := do
  let slot ← s.slots[index]?
  let os ← slot.options?
  let cursor ← slot.cursor?
  return .around cursor os.length height

/-- Whether confirming ends the session: the last slot has the focus, or every slot has a value. -/
def isReady (s : Session) : Bool :=
  s.slots.isEmpty || s.focus + 1 = s.size || s.slots.all fun slot => !slot.value.isEmpty

/-- The values that are not empty, by name, in the order of the slots. -/
def values (s : Session) : List (Text × Text) :=
  s.slots.filterMap fun slot =>
    if slot.value.isEmpty then none else some (slot.name, slot.value)

/-- The value of a name: that of the last slot of the name that has one. -/
def valueOf (s : Session) : Values := Values.ofList s.values.reverse

/-- The template rendered with the values so far. -/
def preview (s : Session) : Text := render s.template s.valueOf

/-! ### Changing a session -/

/-- A message arrives: the session with the slot settled, if the message has any effect. -/
def deliver? (s : Session) (m : Message) : Option Session := do
  guard (m.session = s.id)
  let slot ← s.slots[m.index]?
  let settled ← slot.settle m.outcome
  return { s with slots := s.slots.set m.index settled }

/-- A message arrives. -/
def deliver (s : Session) (m : Message) : Session := (s.deliver? m).getD s

/-- The session after an edit of the parameter at a place, unless the edit is refused. -/
def edit (s : Session) (index : Nat) (e : Edit) : Except Refusal Session :=
  match s.slots[index]? with
  | none => .error (.unknownParameter index)
  | some slot => (slot.edit e).map fun slot => { s with slots := s.slots.set index slot }

/-- The focus goes to the next parameter, and from the last to the first. -/
def focusNext (s : Session) : Session :=
  if s.slots.isEmpty then s else { s with focus := Direction.next.step s.focus s.size }

/-- The focus goes to the previous parameter, and from the first to the last. -/
def focusPrev (s : Session) : Session :=
  if s.slots.isEmpty then s else { s with focus := Direction.prev.step s.focus s.size }

end Session

/-- The counter from which sessions get their numbers. -/
structure Sessions where
  next : UInt64
  deriving DecidableEq, Repr

namespace Sessions

/-- No session has been started. -/
def initial : Sessions := ⟨1⟩

/-- A new session over given parameters, and the counter after it. -/
def beginWith (c : Sessions) (template : Text) (ps : List Parameter) : Session × Sessions :=
  (.withParameters c.next.toNat template ps, ⟨c.next + 1⟩)

/-- A new session over the parameters that a template declares, and the counter after it. -/
def begin (c : Sessions) (template : Text) : Session × Sessions :=
  c.beginWith template (parameters template)

end Sessions

end TemplateFill
