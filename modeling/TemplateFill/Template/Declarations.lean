import TemplateFill.Template.Placeholder

/-!
# The declarations of a template

A name may be declared by several placeholders.  The first one fixes the kind, the options and the
command; the last one with a default fixes the default.  A later placeholder that declares other
options or another command than the first is noted as a redeclaration and has no other effect.
-/

namespace TemplateFill

/-- A later declaration of a name that disagrees with the first. -/
structure Redeclaration where
  name : Text
  /-- The kind in effect. -/
  first : Kind
  /-- The kind that was ignored. -/
  later : Kind
  deriving DecidableEq, Repr

/-- The warning for a redeclaration. -/
def Redeclaration.message (r : Redeclaration) : Text :=
  if r.first = r.later then
    "parameter '" ++ r.name ++ "' redeclared with a different " ++ r.first.label
      ++ " definition; keeping the first"
  else
    "parameter '" ++ r.name ++ "' redeclared as " ++ r.later.label ++ " (first declared as "
      ++ r.first.label ++ "); keeping the first"

namespace Parameter

/-- Whether a later declaration disagrees with the first one.  A free text declaration is a mere
mention and disagrees with nothing. -/
def conflicts (first later : Parameter) : Bool :=
  match later.kind with
  | .text => false
  | .choice => first.kind ≠ .choice || first.options ≠ later.options
  | .dynamic => first.kind ≠ .dynamic || first.command ≠ later.command

/-- The parameter with another default, unless that one is empty. -/
def withDefault (p : Parameter) (default : Text) : Parameter :=
  if default.isEmpty then p else { p with default := default }

end Parameter

/-- What a template declares: its parameters, one for each name, in the order in which the names
first appear, and the redeclarations in the order of their placeholders. -/
structure Declarations where
  parameters : List Parameter
  redeclarations : List Redeclaration
  deriving DecidableEq, Repr

namespace Declarations

/-- One more placeholder's declaration. -/
def add (d : Declarations) (later : Parameter) : Declarations :=
  match d.parameters.find? (·.name = later.name) with
  | none => { d with parameters := d.parameters ++ [later] }
  | some first =>
    { parameters := d.parameters.map fun p =>
        if p.name = later.name then p.withDefault later.default else p
      redeclarations := d.redeclarations
        ++ if first.conflicts later then [⟨later.name, first.kind, later.kind⟩] else [] }

/-- The declarations made one after the other. -/
def ofList (ps : List Parameter) : Declarations := ps.foldl add ⟨[], []⟩

end Declarations

/-- The declarations of a template. -/
def declarations (template : Text) : Declarations := .ofList (declared template)

/-- The parameters of a template. -/
def parameters (template : Text) : List Parameter := (declarations template).parameters

end TemplateFill
