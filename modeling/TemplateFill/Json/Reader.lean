import TemplateFill.Json.Token

/-!
# Reading JSON

The tokens of a text are taken one after the other.  What has been read of the arrays and objects
that are still open is kept in a stack of frames, and the topmost frame says what may come next.

The result is a `Json.Source`, which keeps repeated members, and atoms that stand for nothing.
`Source.value?` makes a value of it: of several members of one name the last one counts, the
members are sorted, and arrays and objects may not be nested too deeply.
-/

namespace TemplateFill

namespace Json

/-- A JSON text as it is written. -/
inductive Source where
  | atom (v : Option Json)
  | array (items : List Source)
  | object (members : List (Option Text × Source))
  deriving Repr

/-- An array or object that is still open, with what has been read of it, the last item first. -/
inductive Frame where
  /-- After the opening bracket: an item or the closing bracket. -/
  | arrayStart
  /-- After a comma: an item. -/
  | arrayItem (items : List Source)
  /-- After an item: a comma or the closing bracket. -/
  | arrayNext (items : List Source)
  /-- After the opening brace: a name or the closing brace. -/
  | objectStart
  /-- After a comma: a name. -/
  | objectName (members : List (Option Text × Source))
  /-- After a name: a colon. -/
  | objectColon (members : List (Option Text × Source)) (name : Option Text)
  /-- After a colon: a value. -/
  | objectValue (members : List (Option Text × Source)) (name : Option Text)
  /-- After a member: a comma or the closing brace. -/
  | objectNext (members : List (Option Text × Source))

/-- How far a text has been read: into some open arrays and objects, or through a whole value. -/
inductive Progress where
  | within (frames : List Frame)
  | done (v : Source)

/-- The value just read is put where the topmost frame wants one. -/
def place (v : Source) : List Frame → Option Progress
  | [] => some (.done v)
  | .arrayStart :: fs => some (.within (.arrayNext [v] :: fs))
  | .arrayItem vs :: fs => some (.within (.arrayNext (v :: vs) :: fs))
  | .objectValue ms n :: fs => some (.within (.objectNext ((n, v) :: ms) :: fs))
  | _ => none

/-- Whether a value may come next. -/
def wantsValue : List Frame → Bool
  | [] | .arrayStart :: _ | .arrayItem _ :: _ | .objectValue _ _ :: _ => true
  | _ => false

/-- One more token. -/
def advance : Progress → Token → Option Progress
  | .done _, _ => none
  | .within fs, t =>
    match t, fs with
    | .null, fs => place (.atom (some .null)) fs
    | .bool b, fs => place (.atom (some (.bool b))) fs
    | .number v, fs => place (.atom v) fs
    | .openArray, fs => if wantsValue fs then some (.within (.arrayStart :: fs)) else none
    | .openObject, fs => if wantsValue fs then some (.within (.objectStart :: fs)) else none
    | .closeArray, .arrayStart :: fs => place (.array []) fs
    | .closeArray, .arrayNext vs :: fs => place (.array vs.reverse) fs
    | .closeObject, .objectStart :: fs => place (.object []) fs
    | .closeObject, .objectNext ms :: fs => place (.object ms.reverse) fs
    | .comma, .arrayNext vs :: fs => some (.within (.arrayItem vs :: fs))
    | .comma, .objectNext ms :: fs => some (.within (.objectName ms :: fs))
    | .colon, .objectColon ms n :: fs => some (.within (.objectValue ms n :: fs))
    | .string s, .objectStart :: fs => some (.within (.objectColon [] s :: fs))
    | .string s, .objectName ms :: fs => some (.within (.objectColon ms s :: fs))
    | .string s, fs => place (.atom (s.map .string)) fs
    | _, _ => none

/-- The value that a text holds, as it is written. -/
def Source.read (s : Text) : Option Source := do
  match ← (← tokens s).foldlM advance (.within []) with
  | .done v => some v
  | .within _ => none

namespace Source

mutual

/-- The number of arrays and objects around the innermost place of a text. -/
def depth : Source → Nat
  | .atom _ => 0
  | .array items => itemsDepth items + 1
  | .object members => membersDepth members + 1

/-- The greatest depth of a list of items. -/
def itemsDepth : List Source → Nat
  | [] => 0
  | v :: vs => max (depth v) (itemsDepth vs)

/-- The greatest depth of a list of members. -/
def membersDepth : List (Option Text × Source) → Nat
  | [] => 0
  | m :: ms => max (depth m.2) (membersDepth ms)

end

mutual

/-- The value of a text, if all that it holds stands for something. -/
def toJson? : Source → Option Json
  | .atom v => v
  | .array items => (itemsToJson? items).map .array
  | .object members => (membersToJson? members).map sortedObject

/-- The values of a list of items. -/
def itemsToJson? : List Source → Option (List Json)
  | [] => some []
  | v :: vs => do return (← toJson? v) :: (← itemsToJson? vs)

/-- The names and values of a list of members. -/
def membersToJson? : List (Option Text × Source) → Option (List (Text × Json))
  | [] => some []
  | (n, v) :: ms => do return (← n, ← toJson? v) :: (← membersToJson? ms)

end

/-- The greatest number of arrays and objects around a place. -/
def deepest : Nat := 127

/-- The value of a text that stands inside `outer` arrays and objects. -/
def value? (outer : Nat) (v : Source) : Option Json :=
  if v.depth + outer ≤ deepest then v.toJson? else none

/-- The text that a string stands for. -/
def text? : Source → Option Text
  | .atom (some (.string s)) => some s
  | _ => none

/-- The value of an array's items or an object's members under names in order: those of an array
are its items in order, and those of an object are found by name.  No name may come twice, and
members under other names are passed over. -/
def fields? (names : List Text) : Source → Option (List (Option Source))
  | .atom _ => none
  | .array items =>
    if items.length ≤ names.length then
      some (items.map some ++ List.replicate (names.length - items.length) none)
    else none
  | .object members =>
    if members.any (·.1.isNone) then none
    else names.mapM fun n =>
      match members.filter (·.1 = some n) with
      | [] => some none
      | [m] => some (some m.2)
      | _ => none

end Source

/-- The value that a text holds. -/
def read (s : Text) : Option Json := (Source.read s).bind (Source.value? 0)

end Json

end TemplateFill
