import TemplateFill.Resolver.Outcome
import TemplateFill.Template.Parameter

/-!
# Slots

A slot holds what is known of one parameter while a template is filled in: its value, and for a
list of options the cursor, which is the place of the value in the list.

A free text or choice parameter can be edited at once.  A dynamic one waits for the outcome of its
command, and takes exactly one: with options it becomes a list for good, and with a failure it
becomes free text for good.  An operation that a slot does not allow is refused and changes nothing.
-/

namespace TemplateFill

/-- A way to go through a list of options, from either end on to the other. -/
inductive Direction where
  | next
  | prev
  deriving DecidableEq, Repr

/-- The place one step from `cursor` in a list of `size` options. -/
def Direction.step (d : Direction) (cursor size : Nat) : Nat :=
  match d with
  | .next => (cursor + 1) % size
  | .prev => (cursor + size - 1) % size

theorem Direction.step_lt (d : Direction) (cursor : Nat) {size : Nat} (h : 0 < size) :
    d.step cursor size < size := by
  cases d <;> exact Nat.mod_lt _ h

/-- Why an operation on a parameter is refused. -/
inductive Refusal where
  | unknownParameter (index : Nat)
  /-- Text for a list of options. -/
  | isList (name : Text)
  /-- A cursor move without a list of options. -/
  | isNotList (name : Text)
  | noOptions (name : Text)
  | outOfRange (name : Text) (option size : Nat)
  | stillLoading (name : Text)
  deriving DecidableEq, Repr

/-- A refusal as it is shown. -/
def Refusal.message : Refusal → Text
  | .unknownParameter index => "no parameter at index " ++ Text.ofNat index
  | .isList name =>
    "parameter '" ++ name ++ "' is a selectable list; move the cursor instead"
  | .isNotList name => "parameter '" ++ name ++ "' is not a selectable list"
  | .noOptions name => "parameter '" ++ name ++ "' has no options to select"
  | .outOfRange name option size =>
    "parameter '" ++ name ++ "' has " ++ Text.ofNat size ++ " options; " ++ Text.ofNat option
      ++ " is out of range"
  | .stillLoading name => "parameter '" ++ name ++ "' is still loading"

/-- How far a parameter's options are known. -/
inductive Stage where
  /-- Not a dynamic parameter: there is nothing to wait for. -/
  | awaitingInput
  /-- The command has not reported yet. -/
  | loading
  /-- The command reported options. -/
  | resolved (options : List Text)
  /-- The command failed. -/
  | failed (why : Failure)
  deriving DecidableEq, Repr

/-- The word for a stage. -/
def Stage.label : Stage → Text
  | .awaitingInput => "awaiting_input"
  | .loading => "loading"
  | .resolved _ => "resolved"
  | .failed _ => "failed"

/-- A parameter that is being filled in. -/
structure Slot where
  parameter : Parameter
  stage : Stage
  value : Text
  /-- The place of the value in the list of options, if there is such a list.  One place is enough,
  for no slot has two lists: only a choice parameter has options of its own, and only a dynamic one
  ever comes to the stage with those of its command. -/
  cursor : Nat
  deriving DecidableEq, Repr

/-- An operation that edits a slot. -/
inductive Edit where
  /-- One step through the options. -/
  | move (d : Direction)
  /-- A jump to an option. -/
  | select (option : Nat)
  /-- A new text. -/
  | setText (text : Text)
  /-- One more character. -/
  | push (c : Char)
  /-- The last character is taken off. -/
  | pop
  deriving DecidableEq, Repr

namespace Slot

/-- The slot of a parameter at the start. -/
def ofParameter (p : Parameter) : Slot :=
  match p.kind with
  | .text => ⟨p, .awaitingInput, p.default, 0⟩
  | .choice =>
    let cursor := (p.defaultIndex? p.options).getD 0
    ⟨p, .awaitingInput, p.options.getD cursor [], cursor⟩
  | .dynamic => ⟨p, .loading, [], 0⟩

/-- The name of the parameter. -/
def name (s : Slot) : Text := s.parameter.name

/-- The options from which the value is chosen, if it is chosen from a list. -/
def options? (s : Slot) : Option (List Text) :=
  match s.stage with
  | .resolved os => some os
  | _ => if s.parameter.kind = .choice then some s.parameter.options else none

/-- Whether the value is chosen from a list. -/
def isList (s : Slot) : Bool := s.options?.isSome

/-- The place of the value in the list, if it is chosen from one. -/
def cursor? (s : Slot) : Option Nat := if s.isList then some s.cursor else none

/-- The slot with the option at a place chosen. -/
def choose (s : Slot) (options : List Text) (place : Fin options.length) : Slot :=
  { s with value := options.get place, cursor := place }

/-- The outcome of the command arrives; only a slot that waits for it takes it. -/
def settle (s : Slot) (outcome : Outcome) : Option Slot :=
  if s.stage ≠ .loading then none
  else
    let failed (why : Failure) : Slot :=
      { s with stage := .failed why, value := s.parameter.default }
    match outcome with
    | .failed why => some (failed why)
    | .options [] => some (failed .emptyOutput)
    | .options os =>
      let cursor := (s.parameter.defaultIndex? os).getD 0
      some { s with stage := .resolved os, value := os.getD cursor [], cursor := cursor }

/-- The slot with another text, if the slot takes text. -/
def editText (s : Slot) (f : Text → Text) : Except Refusal Slot :=
  if s.isList then .error (.isList s.name)
  else if s.stage = .loading then .error (.stillLoading s.name)
  else .ok { s with value := f s.value }

/-- The slot with another option chosen, if the slot is a list that has options. -/
def editList (s : Slot)
    (f : (os : List Text) → 0 < os.length → Except Refusal (Fin os.length)) :
    Except Refusal Slot :=
  match s.options? with
  | none => .error (if s.stage = .loading then .stillLoading s.name else .isNotList s.name)
  | some os =>
    if h : 0 < os.length then (f os h).map (s.choose os) else .error (.noOptions s.name)

/-- The slot after an edit, unless it is refused. -/
def edit (s : Slot) : Edit → Except Refusal Slot
  | .move d => s.editList fun os h => .ok ⟨d.step s.cursor os.length, d.step_lt s.cursor h⟩
  | .select k => s.editList fun os _ =>
    if h : k < os.length then .ok ⟨k, h⟩ else .error (.outOfRange s.name k os.length)
  | .setText t => s.editText fun _ => t
  | .push c => s.editText (· ++ [c])
  | .pop => s.editText List.dropLast

end Slot

end TemplateFill
