import TemplateFill.Json.Reader
import TemplateFill.Json.Writer
import TemplateFill.Template.Parameter

/-!
# Parameters as they are stored in JSON

A stored parameter is a JSON object with the members `name`, `type`, `default`, `options` and
`dynamic_cmd`.  Those that are empty are left out, but the name and the type are always there.
Only the name is needed for reading; the type is `text` unless it says otherwise.  An array of the
members in order is read as well.
-/

namespace TemplateFill

namespace Parameter

/-- A parameter as a JSON object. -/
def toJson (p : Parameter) : Json :=
  .object <|
    ("name", .string p.name) :: ("type", .string p.kind.label) ::
      (Json.memberOf "default" (if p.default.isEmpty then none else some (.string p.default))
        ++ Json.memberOf "options"
          (if p.options.isEmpty then none else some (.array (p.options.map .string)))
        ++ Json.memberOf "dynamic_cmd"
          (if p.command.isEmpty then none else some (.string p.command)))

/-- A list of parameters as a JSON array. -/
def listToJson (ps : List Parameter) : Json := .array (ps.map toJson)

/-- The kind that a JSON text names: a word, or an object whose only member has that word as its
name and holds nothing. -/
def readKind : Json.Source → Option Kind
  | .atom (some (.string s)) => Kind.ofLabel? s
  | .object [(some s, .atom (some .null))] => Kind.ofLabel? s
  | _ => none

/-- The options that a JSON text holds. -/
def readOptionTexts : Json.Source → Option (List Text)
  | .array items => items.mapM Json.Source.text?
  | _ => none

/-- A value that may be missing, which then is `default`. -/
def readOr {α : Type} (default : α) (read : Json.Source → Option α) :
    Option Json.Source → Option α
  | none => some default
  | some v => read v

/-- The parameter that a JSON text holds. -/
def ofSource? (v : Json.Source) : Option Parameter := do
  let [name, kind, default, options, command] ←
    v.fields? ["name", "type", "default", "options", "dynamic_cmd"] | none
  return {
    name := ← (← name).text?
    kind := ← readOr .text readKind kind
    default := ← readOr [] Json.Source.text? default
    options := ← readOr [] readOptionTexts options
    command := ← readOr [] Json.Source.text? command }

/-- The parameters that a JSON text holds in an array. -/
def listOfSource? : Json.Source → Option (List Parameter)
  | .array items => items.mapM ofSource?
  | _ => none

/-- The parameters that a text of JSON holds. -/
def readJson (s : Text) : Option (List Parameter) := do listOfSource? (← Json.Source.read s)

/-- The parameters as JSON over several lines. -/
def writeJson (ps : List Parameter) : Text := (listToJson ps).pretty ++ ['\n']

end Parameter

end TemplateFill
