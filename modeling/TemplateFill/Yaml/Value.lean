import TemplateFill.Yaml.Plain
import TemplateFill.Yaml.Tree

/-!
# YAML values

A value is what a tree stands for: scalars are nothing, truth values, numbers or text, and the keys
of a mapping differ from each other.  Tags of the YAML core say how a scalar is to be read; a value
has no place for other tags, so a tree with one stands for no value.  Neither does one with a whole
number of more than 64 bits.
-/

namespace TemplateFill

namespace Yaml

/-- A YAML value.  The members of a mapping are in the order in which they are written. -/
inductive Value where
  | null
  | bool (b : Bool)
  | integer (i : Int)
  | real (r : Real)
  | string (s : Text)
  | sequence (items : List Value)
  | mapping (members : List (Value × Value))
  deriving Repr, Inhabited

/-- Whether two floating point numbers are the same key: there is only one zero. -/
def Real.same : Real → Real → Bool
  | .finite n a, .finite m b => a = b && (n = m || a.mant = 0)
  | a, b => a = b

namespace Value

mutual

/-- Whether two values are the same key.  The order of members does not matter. -/
def same : Value → Value → Bool
  | .null, .null => true
  | .bool a, .bool b => a = b
  | .integer a, .integer b => a = b
  | .real a, .real b => a.same b
  | .string a, .string b => a = b
  | .sequence as, .sequence bs => sameItems as bs
  | .mapping as, .mapping bs => as.length = bs.length && sameMembers as bs
  | _, _ => false

/-- Whether two rows of values are the same. -/
def sameItems : List Value → List Value → Bool
  | [], [] => true
  | a :: as, b :: bs => same a b && sameItems as bs
  | _, _ => false

/-- Whether all of some members are among others. -/
def sameMembers : List (Value × Value) → List (Value × Value) → Bool
  | [], _ => true
  | a :: as, bs => bs.any (fun b => sameMember a b) && sameMembers as bs

/-- Whether two members are the same. -/
def sameMember : Value × Value → Value × Value → Bool
  | (k, v), b => same k b.1 && same v b.2

end

/-- Whether a tag is one that a value has no place for. -/
def isForeign (tag : Option Text) : Bool := (tag.bind List.head?) = some '!'

/-- A whole number, if it has at most 64 bits. -/
def ofInteger? (i : Int) : Option Value :=
  if -Nat.pow 2 63 ≤ i ∧ i < Nat.pow 2 64 then some (.integer i) else none

/-- The value of a plain scalar without a tag. -/
def ofPlain? (s : Text) : Option Value :=
  match Meaning.ofPlain s with
  | .null => some .null
  | .bool b => some (.bool b)
  | .integer i => ofInteger? i
  | .real r => some (.real r)
  | .text => some (.string s)

/-- The value of a scalar. -/
def ofScalar? (tag : Option Text) (s : Text) (style : Style) : Option Value :=
  match tag with
  | none => if style = .plain then ofPlain? s else some (.string s)
  | some t =>
    if t = coreTag "bool" then (boolWord? s).map .bool
    else if t = coreTag "int" then (integer? s).bind ofInteger?
    else if t = coreTag "float" then (real? s).map .real
    else if t = coreTag "null" then (if isNullWord s then some .null else none)
    else some (.string s)

/-- Whether no two members have the same key. -/
def keysDiffer : List (Value × Value) → Bool
  | [] => true
  | m :: ms => !ms.any (fun n => same m.1 n.1) && keysDiffer ms

mutual

/-- The value that a tree stands for. -/
def ofTree? : Tree → Option Value
  | .scalar tag s style => if isForeign tag then none else ofScalar? tag s style
  | .sequence tag ts => if isForeign tag then none else (ofItems? ts).map .sequence
  | .mapping tag ms =>
    if isForeign tag then none
    else (ofMembers? ms).bind fun ms => if keysDiffer ms then some (.mapping ms) else none
  | .unusable => none

/-- The values of a row of trees. -/
def ofItems? : List Tree → Option (List Value)
  | [] => some []
  | t :: ts => do return (← ofTree? t) :: (← ofItems? ts)

/-- The members of a mapping as values. -/
def ofMembers? : List (Tree × Tree) → Option (List (Value × Value))
  | [] => some []
  | m :: ms => do return (← ofMember? m) :: (← ofMembers? ms)

/-- One member of a mapping as values. -/
def ofMember? : Tree × Tree → Option (Value × Value)
  | (k, v) => do return (← ofTree? k, ← ofTree? v)

end

end Value

end Yaml

end TemplateFill
