import TemplateFill.Template.Placeholder

/-!
# Rendering

Rendering replaces each placeholder that declares a name by the value of that name if it is not
empty, otherwise by the placeholder's own default if it has one.  Other placeholders, and the text
between them, stay as they are.  What is put in is not read again.
-/

namespace TemplateFill

/-- The values of the names that have one. -/
abbrev Values := Text → Option Text

namespace Values

/-- No name has a value. -/
def none : Values := fun _ => Option.none

/-- The values of a list of pairs; the first pair of a name counts. -/
def ofList (pairs : List (Text × Text)) : Values := fun name => List.lookup name pairs

end Values

/-- What a placeholder with the given body becomes. -/
def substitute (values : Values) (body : Text) : Text :=
  match Parameter.ofBody? body with
  | none => Placeholder.written body
  | some p =>
    let value := (values p.name).getD []
    if !value.isEmpty then value
    else if p.hasDefault then p.default
    else Placeholder.written body

/-- The template with its placeholders replaced. -/
def render (template : Text) (values : Values) : Text :=
  (placeholders template).fill (substitute values)

end TemplateFill
