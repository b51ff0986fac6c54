import TemplateFill.Number.Notation
import TemplateFill.Text.Named

/-!
# JSON values

A value keeps the members of an object in the order in which they are written.
`Json.sortedObject` makes an object of members that have no order of their own.
-/

namespace TemplateFill

/-- A JSON value.  A whole number is kept exactly if it fits into 64 bits, signed or unsigned. -/
inductive Json where
  | null
  | bool (b : Bool)
  | integer (i : Int)
  | real (negative : Bool) (magnitude : Binary64)
  | string (s : Text)
  | array (items : List Json)
  | object (members : List (Text × Json))
  deriving Repr, Inhabited

namespace Json

/-- An object with its members sorted. -/
def sortedObject (members : List (Text × Json)) : Json := .object (Text.sortNamed members)

/-- A whole number. -/
def ofNat (n : Nat) : Json := .integer n

/-- A member that is written only if there is a value. -/
def memberOf (name : Text) (v : Option Json) : List (Text × Json) :=
  match v with
  | none => []
  | some v => [(name, v)]

end Json

end TemplateFill
