import TemplateFill.Session.Basic
import TemplateFill.Template.Assignment

/-!
# Values given before a session takes input

A free text parameter takes a given value as it is.  A list takes it only if it is one of the
options, and a parameter whose options are not known yet takes none.
-/

namespace TemplateFill

namespace Session

/-- Why a value cannot be given. -/
inductive PrefillFault where
  | noParameter (name : Text)
  | noSuchOption (name value : Text)
  | refused (why : Refusal)
  deriving DecidableEq, Repr

/-- The text of the error. -/
def PrefillFault.message : PrefillFault → Text
  | .noParameter name => "template has no parameter '" ++ name ++ "'"
  | .noSuchOption name value =>
    "'" ++ value ++ "' is not one of the options of parameter '" ++ name ++ "'"
  | .refused why => "cannot pre-fill: " ++ why.message

/-- The error that a command ends with. -/
def PrefillFault.error (f : PrefillFault) : Error := .user f.message

/-- The session with a value given to a name. -/
def assign (s : Session) (name value : Text) : Except PrefillFault Session :=
  match s.indexOf? name with
  | none => .error (.noParameter name)
  | some index =>
    let edit : Except PrefillFault Edit :=
      match (s.slots[index]?).bind Slot.options? with
      | none => .ok (.setText value)
      | some os =>
        match os.idxOf? value with
        | none => .error (.noSuchOption name value)
        | some k => .ok (.select k)
    edit.bind fun e => (s.edit index e).mapError .refused

/-- The session with values given to names, one after the other. -/
def prefill (s : Session) (as : Assignments) : Except PrefillFault Session :=
  as.foldlM (fun s a => s.assign a.1 a.2) s

end Session

end TemplateFill
