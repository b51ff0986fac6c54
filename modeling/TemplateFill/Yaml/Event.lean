import TemplateFill.Yaml.Token

/-!
# The events of YAML

Events are what tokens say about nodes: where a sequence or a mapping begins and ends, and which
scalars and aliases stand in between.  A node that is left out is an empty plain scalar.  Tags are
given in full.

Tokens are taken one after the other by a machine with a stack of places, each of which says what
may follow.
-/

namespace TemplateFill

namespace Yaml

/-- What is written before a node. -/
structure Properties where
  anchor : Option Text
  tag : Option Text
  deriving DecidableEq, Repr

/-- One event. -/
inductive Event where
  | documentEnd
  | alias (name : Text)
  | scalar (p : Properties) (text : Text) (style : Style)
  | sequenceStart (p : Properties)
  | sequenceEnd
  | mappingStart (p : Properties)
  | mappingEnd
  deriving DecidableEq, Repr

/-- A node that is left out. -/
def Event.empty : Event := .scalar ⟨none, none⟩ [] .plain

/-- A place between tokens. -/
inductive Place where
  /-- Before the first document, which need not be marked. -/
  | firstDocument
  /-- Between documents. -/
  | nextDocument
  /-- Behind the mark of a document's start. -/
  | documentContent
  | documentEnd
  | blockSequenceItem
  /-- In a block sequence that is not indented deeper than the mapping around it. -/
  | flatSequenceItem
  | blockMappingKey
  | blockMappingValue
  | flowSequenceItem (first : Bool)
  /-- In a mapping of one pair that is an item of a flow sequence. -/
  | pairKey
  | pairValue
  | pairEnd
  | flowMappingKey (first : Bool)
  | flowMappingValue
  /-- Behind a key without a value. -/
  | flowMappingNoValue
  deriving DecidableEq, Repr

/-- The handles of tags that stand for themselves unless a document says otherwise. -/
def defaultHandles : List (Text × Text) :=
  [("!", "!"), ("!!", "tag:yaml.org,2002:")]

/-- The machine that makes events of tokens. -/
structure Machine where
  tokens : List Token
  place : Place
  stack : List Place
  handles : List (Text × Text)
  deriving Repr

namespace Machine

/-- The machine before the first token. -/
def start (ts : List Token) : Machine := ⟨ts, .firstDocument, [], defaultHandles⟩

/-- The machine without its first token. -/
def drop (m : Machine) : Machine := { m with tokens := m.tokens.tail }

/-- The machine at another place. -/
def goto (m : Machine) (p : Place) : Machine := { m with place := p }

/-- The machine at a place, to which a node comes first. -/
def before (m : Machine) (p : Place) : Machine := { m with stack := p :: m.stack }

/-- The machine at the place on top of the stack. -/
def back (m : Machine) : Option Machine :=
  match m.stack with
  | p :: ps => some { m with place := p, stack := ps }
  | [] => none

/-- An anchor and a tag at the first tokens, in either order. -/
def readProperties : List Token → Option Text × Option (Text × Text) × List Token
  | .anchor a :: .tag h s :: ts => (some a, some (h, s), ts)
  | .tag h s :: .anchor a :: ts => (some a, some (h, s), ts)
  | .anchor a :: ts => (some a, none, ts)
  | .tag h s :: ts => (none, some (h, s), ts)
  | ts => (none, none, ts)

/-- The full text of a tag. -/
def resolveTag (m : Machine) (handle suffix : Text) : Option Text :=
  if handle.isEmpty then some suffix else (m.handles.lookup handle).map (· ++ suffix)

/-- The event at the start of a node. -/
def node (m : Machine) (block flatSequence : Bool) : Option (Event × Machine) :=
  match m.tokens with
  | .alias name :: _ => do some (.alias name, ← m.drop.back)
  | _ => do
    let (anchor, tag, ts) := readProperties m.tokens
    let tag ← match tag with
      | some (h, s) => (m.resolveTag h s).map some
      | none => some none
    let p : Properties := ⟨anchor, tag⟩
    let m := { m with tokens := ts }
    match ts with
    | .blockItem :: _ =>
      if flatSequence then some (.sequenceStart p, m.goto .flatSequenceItem)
      else if anchor.isSome ∨ tag.isSome then some (.scalar p [] .plain, ← m.back)
      else none
    | .scalar text style :: _ =>
      let p := if tag = some ['!'] then { p with tag := none } else p
      some (.scalar p text style, ← m.drop.back)
    | .openSequence :: _ => some (.sequenceStart p, m.drop.goto (.flowSequenceItem true))
    | .openMapping :: _ => some (.mappingStart p, m.drop.goto (.flowMappingKey true))
    | .blockSequence :: _ =>
      if block then some (.sequenceStart p, m.drop.goto .blockSequenceItem)
      else if anchor.isSome ∨ tag.isSome then some (.scalar p [] .plain, ← m.back)
      else none
    | .blockMapping :: _ =>
      if block then some (.mappingStart p, m.drop.goto .blockMappingKey)
      else if anchor.isSome ∨ tag.isSome then some (.scalar p [] .plain, ← m.back)
      else none
    | _ =>
      if anchor.isSome ∨ tag.isSome then some (.scalar p [] .plain, ← m.back) else none

/-- A node before a place, or an empty one if the first token cannot begin one there. -/
def nodeUnless (m : Machine) (next : Place) (block flatSequence : Bool)
    (missing : Option Token → Bool) : Option (Event × Machine) :=
  if missing m.tokens.head? then some (.empty, m.goto next)
  else (m.before next).node block flatSequence

/-- Whether a token cannot begin a node at a key or a value of a block mapping. -/
def endsBlockNode : Option Token → Bool
  | some .key | some .value | some .blockEnd => true
  | _ => false

/-- Whether a token cannot begin a node at an item of a block sequence. -/
def endsItem : Option Token → Bool
  | some .blockItem | some .blockEnd => true
  | _ => false

/-- Whether a token cannot begin a node at a key of a flow mapping. -/
def endsFlowKey : Option Token → Bool
  | some .value | some .comma | some .closeMapping => true
  | _ => false

/-- Whether a token cannot begin a node at a value of a flow mapping. -/
def endsFlowValue : Option Token → Bool
  | some .comma | some .closeMapping => true
  | _ => false

/-- Whether a token cannot begin a node at the value of a pair in a flow sequence. -/
def endsPairValue : Option Token → Bool
  | some .comma | some .closeSequence => true
  | _ => false

/-- The directives before a document, and the machine behind them. -/
def readDirectives (version : Bool) (handles : List (Text × Text)) :
    List Token → Option (List (Text × Text) × List Token)
  | .version major minor :: ts =>
    if version ∨ major ≠ 1 ∨ (minor ≠ 1 ∧ minor ≠ 2) then none
    else readDirectives true handles ts
  | .tagDirective h leader :: ts =>
    if handles.any (·.1 = h) then none else readDirectives version ((h, leader) :: handles) ts
  | ts => some (handles, ts)

/-- A document's start.  The handles that it declares are known in it, and the default ones too. -/
def openDocument (m : Machine) : Option (Machine × Bool) := do
  let (handles, ts) ← readDirectives false [] m.tokens
  let m := { m with tokens := ts, handles := handles ++ defaultHandles }
  match ts with
  | .documentStart :: _ => some (m.drop, true)
  | _ => some (m, false)

/-- A step that has an event. -/
def emit (p : Option (Event × Machine)) : Option (Option Event × Machine) :=
  p.map fun p => (some p.1, p.2)

/-- The next event, if the place has one, and the machine after it.  Without a result there is an
error; the last machine has no tokens and is between documents. -/
def step (m : Machine) : Option (Option Event × Machine) :=
  match m.place with
  | .firstDocument =>
    match m.tokens with
    | [] => some (none, m.goto .nextDocument)
    | .version .. :: _ | .tagDirective .. :: _ | .documentStart :: _ =>
      some (none, m.goto .nextDocument)
    | _ => emit <| ({ m with handles := defaultHandles }.before .documentEnd).node true false
  | .nextDocument =>
    match m.tokens with
    | .documentEnd :: _ => some (none, m.drop)
    | _ => do
      match ← m.openDocument with
      | (m, true) => some (none, (m.before .documentEnd).goto .documentContent)
      | (_, false) => none
  | .documentContent =>
    match m.tokens with
    | [] | .version .. :: _ | .tagDirective .. :: _ | .documentStart :: _ | .documentEnd :: _ => do
      some (some .empty, ← m.back)
    | _ => emit <| m.node true false
  | .documentEnd =>
    let m := if m.tokens.head? = some .documentEnd then m.drop else m
    some (some .documentEnd, m.goto .nextDocument)
  | .blockSequenceItem =>
    match m.tokens with
    | .blockItem :: _ =>
      emit <| m.drop.nodeUnless .blockSequenceItem true false endsItem
    | .blockEnd :: _ => do some (some .sequenceEnd, ← m.drop.back)
    | _ => none
  | .flatSequenceItem =>
    match m.tokens with
    | .blockItem :: _ =>
      emit <| m.drop.nodeUnless .flatSequenceItem true false fun t => endsItem t || endsBlockNode t
    | _ => do some (some .sequenceEnd, ← m.back)
  | .blockMappingKey =>
    match m.tokens with
    | .key :: _ => emit <| m.drop.nodeUnless .blockMappingValue true true endsBlockNode
    | .blockEnd :: _ => do some (some .mappingEnd, ← m.drop.back)
    | _ => none
  | .blockMappingValue =>
    match m.tokens with
    | .value :: _ => emit <| m.drop.nodeUnless .blockMappingKey true true endsBlockNode
    | _ => some (some .empty, m.goto .blockMappingKey)
  | .flowSequenceItem first => do
    if m.tokens.head? = some .closeSequence then some (some .sequenceEnd, ← m.drop.back)
    else
      let m ← if first then some m
        else if m.tokens.head? = some .comma then some m.drop else none
      match m.tokens with
      | .key :: _ => some (some (.mappingStart ⟨none, none⟩), m.drop.goto .pairKey)
      | .closeSequence :: _ => some (some .sequenceEnd, ← m.drop.back)
      | _ => emit <| (m.before (.flowSequenceItem false)).node false false
  | .pairKey =>
    match m.tokens with
    | .value :: _ | .comma :: _ | .closeSequence :: _ =>
      some (some .empty, m.drop.goto .pairValue)
    | _ => emit <| (m.before .pairValue).node false false
  | .pairValue =>
    match m.tokens with
    | .value :: _ => emit <| m.drop.nodeUnless .pairEnd false false endsPairValue
    | _ => some (some .empty, m.goto .pairEnd)
  | .pairEnd => some (some .mappingEnd, m.goto (.flowSequenceItem false))
  | .flowMappingKey first => do
    if m.tokens.head? = some .closeMapping then some (some .mappingEnd, ← m.drop.back)
    else
      let m ← if first then some m
        else if m.tokens.head? = some .comma then some m.drop else none
      match m.tokens with
      | .key :: _ => emit <| m.drop.nodeUnless .flowMappingValue false false endsFlowKey
      | .closeMapping :: _ => some (some .mappingEnd, ← m.drop.back)
      | _ => emit <| (m.before .flowMappingNoValue).node false false
  | .flowMappingValue =>
    match m.tokens with
    | .value :: _ =>
      emit <| m.drop.nodeUnless (.flowMappingKey false) false false endsFlowValue
    | _ => some (some .empty, m.goto (.flowMappingKey false))
  | .flowMappingNoValue => some (some .empty, m.goto (.flowMappingKey false))

/-- The events up to the last document's end. -/
def events? (m : Machine) : Nat → Option (List Event)
  | 0 => none
  | fuel + 1 =>
    if m.place = .nextDocument ∧ m.tokens.isEmpty then some []
    else do
      let (e, m) ← m.step
      let es ← m.events? fuel
      some (e.toList ++ es)

end Machine

/-- The events of a row of tokens.  A token takes part in only a few of the machine's steps. -/
def events? (ts : List Token) : Option (List Event) :=
  (Machine.start ts).events? (8 * ts.length + 8)

end Yaml

end TemplateFill
