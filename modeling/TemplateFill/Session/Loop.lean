import TemplateFill.Session.Basic

/-!
# Driving a session by events

Events are the inputs of the user and the messages of the jobs.  They are taken one at a time, and
no event waits for another.  An input edits the slot that has the focus, moves the focus, confirms,
or gives up.  Confirming submits the session if it is ready and otherwise moves the focus on; an
input that edits and confirms does so only if the edit was accepted.

A session ends when it is submitted or given up, and it is given up if the events run out.
-/

namespace TemplateFill

/-- What the user does. -/
inductive Input where
  /-- Focus the next parameter. -/
  | next
  /-- Focus the previous parameter. -/
  | prev
  /-- One option back. -/
  | up
  /-- One option on. -/
  | down
  /-- Jump to an option. -/
  | choose (option : Nat)
  /-- Jump to an option, then confirm. -/
  | chooseAndConfirm (option : Nat)
  | char (c : Char)
  | backspace
  | setText (text : Text)
  /-- Set the text, then confirm. -/
  | setTextAndConfirm (text : Text)
  /-- Confirm. -/
  | enter
  /-- Give up. -/
  | cancel
  deriving DecidableEq, Repr

/-- What a session takes in. -/
inductive Event where
  | input (i : Input)
  | report (m : Message)
  deriving DecidableEq, Repr

/-- How a session ends. -/
inductive Ending where
  | submitted (command : Text)
  | cancelled
  deriving DecidableEq, Repr

/-- What an input asks of a session. -/
inductive Request where
  | focusNext
  | focusPrev
  /-- An edit of the slot that has the focus, and whether to confirm after it. -/
  | edit (e : Edit) (confirm : Bool)
  | confirm
  | cancel
  deriving DecidableEq, Repr

/-- The request that an input makes. -/
def Input.request : Input → Request
  | .next => .focusNext
  | .prev => .focusPrev
  | .up => .edit (.move .prev) false
  | .down => .edit (.move .next) false
  | .choose k => .edit (.select k) false
  | .chooseAndConfirm k => .edit (.select k) true
  | .char c => .edit (.push c) false
  | .backspace => .edit .pop false
  | .setText t => .edit (.setText t) false
  | .setTextAndConfirm t => .edit (.setText t) true
  | .enter => .confirm
  | .cancel => .cancel

/-- What happens in a session that its journal notes. -/
inductive Occurrence where
  /-- The session begins. -/
  | started (template : Text) (parameters pending : Nat)
  /-- A parameter gets its options. -/
  | resolved (name : Text) (options : Nat)
  /-- A parameter's command fails. -/
  | failed (name : Text) (why : Failure)
  /-- A message for another session is dropped. -/
  | discarded (session : Nat)
  | submitted (command : Text)
  | cancelled (pending : Nat)
  deriving DecidableEq, Repr

namespace Session

/-- The session is submitted if it is ready; otherwise the focus moves on. -/
def confirm (s : Session) : Session × Option Ending :=
  if s.isReady then (s, some (.submitted s.preview)) else (s.focusNext, none)

/-- An input arrives.  A refused edit leaves everything as it is. -/
def take (s : Session) (i : Input) : Session × Option Ending :=
  match i.request with
  | .focusNext => (s.focusNext, none)
  | .focusPrev => (s.focusPrev, none)
  | .confirm => s.confirm
  | .cancel => (s, some .cancelled)
  | .edit e confirm =>
    match s.edit s.focus e with
    | .error _ => (s, none)
    | .ok s => if confirm then s.confirm else (s, none)

/-- An event arrives: the session after it, and how the session ended if it did. -/
def step (s : Session) : Event → Session × Option Ending
  | .input i => s.take i
  | .report m => (s.deliver m, none)

/-- The occurrence that begins the journal of a session. -/
def opening (s : Session) : Occurrence := .started s.template s.size s.pending

/-- The occurrence that ends the journal of a session. -/
def closing (s : Session) : Ending → Occurrence
  | .submitted command => .submitted command
  | .cancelled => .cancelled s.pending

/-- What the journal notes of the slot that a message has just settled. -/
def settled (s : Session) (index : Nat) : List Occurrence :=
  match s.slots[index]? with
  | none => []
  | some slot =>
    match slot.stage with
    | .resolved os => [.resolved slot.name os.length]
    | .failed why => [.failed slot.name why]
    | _ => []

/-- What the journal notes of an event that does not end the session. -/
def noted (s : Session) : Event → List Occurrence
  | .input _ => []
  | .report m =>
    (if m.session = s.id then [] else [.discarded m.session])
      ++ match s.deliver? m with
        | none => []
        | some s => s.settled m.index

end Session

/-- A session driven to its end. -/
structure Run where
  ending : Ending
  /-- The session after each event that did not end it. -/
  after : List Session
  /-- What the journal notes, in order. -/
  occurrences : List Occurrence
  deriving DecidableEq, Repr

namespace Session

/-- The events up to the one that ends the session. -/
def drive (s : Session) : List Event → Run
  | [] => ⟨.cancelled, [], [s.closing .cancelled]⟩
  | e :: es =>
    match s.step e with
    | (s', some ending) => ⟨ending, [], s.noted e ++ [s'.closing ending]⟩
    | (s', none) =>
      let rest := s'.drive es
      { rest with after := s' :: rest.after, occurrences := s.noted e ++ rest.occurrences }

/-- A session from its beginning to its end. -/
def run (s : Session) (es : List Event) : Run :=
  let r := s.drive es
  { r with occurrences := s.opening :: r.occurrences }

end Session

end TemplateFill
