import TemplateFill.Yaml.Event

/-!
# The nodes of a YAML document

The events of a document are put together to nodes.  An alias stands for an anchored node, which it
names by a number.  An anchor takes as its number the count of the names that are known before it,
so an anchor with a name of its own gets a new number, and one whose name is known already gets the
number that the next new name will get as well.  The last node with a number is the one that its
aliases stand for, also those that come before it.
-/

namespace TemplateFill

namespace Yaml

/-- A node, in which an alias is the number of another node. -/
inductive Node where
  | scalar (tag : Option Text) (text : Text) (style : Style)
  | sequence (tag : Option Text) (items : List Node)
  | mapping (tag : Option Text) (members : List (Node × Node))
  | alias (number : Nat)
  deriving Repr, Inhabited

/-- A sequence or mapping of which not all nodes are known. -/
structure OpenNode where
  /-- The number of events before it. -/
  position : Nat
  isMapping : Bool
  properties : Properties
  /-- The nodes in it so far, the last one first. -/
  nodes : List Node

/-- The nodes of a mapping as keys with their values. -/
def pairUp : List Node → List (Node × Node)
  | k :: v :: r => (k, v) :: pairUp r
  | _ => []

/-- The node of a sequence or mapping that has ended. -/
def OpenNode.close (o : OpenNode) : Node :=
  let nodes := o.nodes.reverse
  if o.isMapping then .mapping o.properties.tag (pairUp nodes)
  else .sequence o.properties.tag nodes

/-- The nodes of a document up to one of its events. -/
structure Composition where
  /-- The number of events so far. -/
  position : Nat
  /-- The number that each name stands for. -/
  numbers : List (Text × Nat)
  /-- The positions at which nodes with a number begin, the last one first. -/
  starts : List (Nat × Nat)
  /-- The anchored nodes that are complete, by the positions at which they begin. -/
  anchored : List (Nat × Node)
  /-- The sequences and mappings around the next event, the innermost first. -/
  opened : List OpenNode
  root : Option Node

namespace Composition

/-- Before the first event. -/
def start : Composition := ⟨0, [], [], [], [], none⟩

/-- A node begins, whose name gets a number if it has one. -/
def mark (c : Composition) (p : Properties) : Composition :=
  match p.anchor with
  | none => c
  | some name =>
    let number := c.numbers.length
    { c with
      numbers := (name, number) :: c.numbers.filter (·.1 ≠ name)
      starts := (number, c.position) :: c.starts }

/-- A node that begins at a position is complete. -/
def put (c : Composition) (position : Nat) (p : Properties) (n : Node) : Composition :=
  let c := if p.anchor.isSome then { c with anchored := (position, n) :: c.anchored } else c
  match c.opened with
  | o :: os => { c with opened := { o with nodes := n :: o.nodes } :: os }
  | [] => { c with root := some n }

/-- A sequence or mapping begins. -/
def enter (c : Composition) (isMapping : Bool) (p : Properties) : Composition :=
  let c := c.mark p
  { c with opened := ⟨c.position, isMapping, p, []⟩ :: c.opened }

/-- The innermost sequence or mapping ends. -/
def leave (c : Composition) : Composition :=
  match c.opened with
  | o :: os => { c with opened := os }.put o.position o.properties o.close
  | [] => c

/-- The nodes after one more event; an alias of an unknown name is an error. -/
def add (c : Composition) (e : Event) : Option Composition := do
  let c ← match e with
    | .alias name => do
      let number ← c.numbers.lookup name
      some (c.put c.position ⟨none, none⟩ (.alias number))
    | .scalar p text style => some ((c.mark p).put c.position p (.scalar p.tag text style))
    | .sequenceStart p => some (c.enter false p)
    | .mappingStart p => some (c.enter true p)
    | .sequenceEnd | .mappingEnd => some c.leave
    | .documentEnd => some c
  some { c with position := c.position + 1 }

end Composition

/-- A document: its node, the nodes that its aliases stand for, and the number of its events. -/
structure Document where
  root : Node
  marked : List (Nat × Node)
  size : Nat
  deriving Repr

/-- The nodes by their numbers. -/
def Composition.marked (c : Composition) : List (Nat × Node) :=
  c.starts.filterMap fun s => (c.anchored.lookup s.2).map fun n => (s.1, n)

/-- The only document of a row of events.  If there is none, it counts as one that is left empty;
more than one is an error. -/
def Document.ofEvents? (es : List Event) : Option Document := do
  let own := es.takeWhile (· ≠ .documentEnd)
  if (es.drop own.length).length > 1 then none
  let c ← own.foldlM Composition.add Composition.start
  some ⟨c.root.getD (.scalar none [] .plain), c.marked, c.position⟩

end Yaml

end TemplateFill
