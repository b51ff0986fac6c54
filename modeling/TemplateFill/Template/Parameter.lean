import TemplateFill.Text.Basic

/-!
# Parameters and the bodies that declare them

The body of a placeholder declares one parameter.  The first of these rules that applies says how
it is read:

* with a `!`, the name stands before the first `!` and a command after it, kept as written;
* with a `|`, the name stands before the first `|` and options follow, separated by `|`; empty
  options are dropped, one leading `*` is taken off, and the first option that had one is the
  default;
* with a `:`, the name stands before the first `:` and the default after it;
* otherwise the body is the name.

A body whose name is empty declares nothing.
-/

namespace TemplateFill

/-- How a parameter gets its value. -/
inductive Kind where
  /-- Free text. -/
  | text
  /-- One of the options that the template lists. -/
  | choice
  /-- One of the options that a command prints. -/
  | dynamic
  deriving DecidableEq, Repr

/-- The word that stands for a kind in stored and shown descriptions. -/
def Kind.label : Kind → Text
  | .text => "text"
  | .choice => "enum"
  | .dynamic => "dynamic"

/-- The kind that a word stands for. -/
def Kind.ofLabel? (s : Text) : Option Kind :=
  [Kind.text, .choice, .dynamic].find? (·.label = s)

/-- A named parameter.  An empty default means that there is none. -/
structure Parameter where
  name : Text
  kind : Kind
  default : Text
  /-- The options of a `choice`. -/
  options : List Text
  /-- The command of a `dynamic` parameter. -/
  command : Text
  deriving DecidableEq, Repr

namespace Parameter

/-- A free text parameter. -/
def free (name default : Text) : Parameter := ⟨name, .text, default, [], []⟩

/-- Whether there is a default. -/
def hasDefault (p : Parameter) : Bool := !p.default.isEmpty

/-- The place of the default among `options`: the first option equal to it. -/
def defaultIndex? (p : Parameter) (options : List Text) : Option Nat :=
  if p.hasDefault then options.idxOf? p.default else none

/-- One option as it is written: its text, and whether a star marks it. -/
def readOption : Text → Text × Bool
  | '*' :: r => (r, true)
  | s => (s, false)

/-- The options written in a list of pieces, each with its mark; empty ones are dropped. -/
def readOptions (segments : List Text) : List (Text × Bool) :=
  (segments.map readOption).filter fun o => !o.1.isEmpty

/-- What a placeholder's body says, whether or not the name is empty. -/
def readBody (body : Text) : Parameter :=
  match Text.splitOnce '!' body with
  | some (name, command) => ⟨name, .dynamic, [], [], command⟩
  | none =>
    match Text.splitOnce '|' body with
    | some (name, rest) =>
      let options := readOptions (Text.pieces '|' rest)
      let default := ((options.find? Prod.snd).map Prod.fst).getD []
      ⟨name, .choice, default, options.map Prod.fst, []⟩
    | none =>
      match Text.splitOnce ':' body with
      | some (name, default) => free name default
      | none => free body []

/-- The parameter that a placeholder's body declares, if its name is not empty. -/
def ofBody? (body : Text) : Option Parameter :=
  let p := readBody body
  if p.name.isEmpty then none else some p

end Parameter

end TemplateFill
