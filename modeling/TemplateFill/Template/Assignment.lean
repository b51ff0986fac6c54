import TemplateFill.Error
import TemplateFill.Template.Render

/-!
# Assignments written as `NAME=VALUE`

The name ends at the first equals sign and is not empty.  A later assignment to a name replaces an
earlier one.  The first pair that is wrong decides the error.
-/

namespace TemplateFill

/-- Values given to names, each name at most once. -/
abbrev Assignments := List (Text × Text)

namespace Assignments

/-- A pair that assigns nothing. -/
inductive Fault where
  | noEquals (pair : Text)
  | emptyName (pair : Text)
  deriving DecidableEq, Repr

/-- The text of the error. -/
def Fault.message : Fault → Text
  | .noEquals pair => "invalid value '" ++ pair ++ "': expected NAME=VALUE"
  | .emptyName pair => "invalid value '" ++ pair ++ "': parameter name is empty"

/-- The error that a wrong pair ends a command with. -/
def Fault.error (f : Fault) : Error := .user f.message

/-- The assignments with `name` bound to `value`. -/
def set (as : Assignments) (name value : Text) : Assignments :=
  if as.any (·.1 = name) then as.map fun p => if p.1 = name then (name, value) else p
  else as ++ [(name, value)]

/-- The name and the value of one pair. -/
def readPair (pair : Text) : Except Fault (Text × Text) :=
  match Text.splitOnce '=' pair with
  | none => .error (.noEquals pair)
  | some (name, value) => if name.isEmpty then .error (.emptyName pair) else .ok (name, value)

/-- The assignments that a list of pairs makes. -/
def ofPairs (pairs : List Text) : Except Fault Assignments :=
  pairs.foldlM (fun as pair => do
    let (name, value) ← readPair pair
    return as.set name value) []

end Assignments

/-- The template rendered with the values that a list of pairs assigns. -/
def renderAssigned (template : Text) (pairs : List Text) : Except Assignments.Fault Text := do
  let values ← Assignments.ofPairs pairs
  return render template (Values.ofList values)

end TemplateFill
