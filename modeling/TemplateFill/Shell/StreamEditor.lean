import TemplateFill.Shell.Filters

/-!
# The stream editor

A script of `sed` runs for each line of the input.  Each of its commands may be restricted to some
lines.  The commands to substitute, delete, print and quit are understood.
-/

namespace TemplateFill

namespace Shell

namespace StreamEditor

/-- A line that a command is restricted to. -/
inductive Address where
  | line (n : Nat)
  | last
  | matching (r : Regex)

/-- A command. -/
inductive Action where
  | delete
  | print
  | quit
  /-- Every match, or only the `nth` one and those behind it, is replaced. -/
  | substitute (r : Regex) (replacement : Text) (nth : Nat) (everywhere fold print : Bool)

/-- A command with the lines that it is for. -/
structure Instruction where
  start : Option Address
  stop : Option Address
  negated : Bool
  action : Action

/-! ### Reading -/

/-- The text up to a delimiter, before which a backslash protects it. -/
def readDelimited (d : Char) : Text → Option (Text × Text)
  | [] => none
  | '\\' :: c :: r =>
    (readDelimited d r).map fun p => (if c = d then c :: p.1 else '\\' :: c :: p.1, p.2)
  | c :: r => if c = d then some ([], r) else (readDelimited d r).map fun p => (c :: p.1, p.2)

/-- The address at the start of a text. -/
def readAddress (extended : Bool) (s : Text) : Option (Option Address × Text) :=
  match s with
  | '$' :: r => some (some .last, r)
  | '/' :: r => do
    let (t, r) ← readDelimited '/' r
    some (some (.matching (← Regex.read? extended t)), r)
  | _ =>
    let ds := s.takeWhile Char.isDigit
    match Text.toNat? ds with
    | some n => some (some (.line n), s.drop ds.length)
    | none => some (none, s)

/-- The instruction at the start of a text. -/
def readInstruction (extended : Bool) (s : Text) : Option (Instruction × Text) := do
  let (start, s) ← readAddress extended s
  let (stop, s) ← match s with
    | ',' :: r => readAddress extended r
    | _ => some (none, s)
  let (negated, s) := match s.dropWhile (· = ' ') with
    | '!' :: r => (true, r.dropWhile (· = ' '))
    | r => (false, r)
  let (action, s) ← match s with
    | 'd' :: r => some (Action.delete, r)
    | 'p' :: r => some (.print, r)
    | 'q' :: r => some (.quit, r)
    | 's' :: d :: r => do
      let (pattern, r) ← readDelimited d r
      let (replacement, r) ← readDelimited d r
      let flags := r.takeWhile fun c => c.isDigit || c ∈ "gpiI".toList
      let nth := (Text.toNat? (flags.filter Char.isDigit)).getD 1
      some (.substitute (← Regex.read? extended pattern) replacement nth (flags.contains 'g')
        (flags.any fun c => c = 'i' || c = 'I') (flags.contains 'p'), r.drop flags.length)
    | _ => none
  some (⟨start, stop, negated, action⟩, s)

/-- The instructions of a script. -/
def readScript (extended : Bool) (s : Text) : Nat → Option (List Instruction)
  | 0 => none
  | fuel + 1 =>
    match s.dropWhile fun c => c = ' ' || c = ';' || c = '\n' || c = '\t' with
    | [] => some []
    | s => do
      let (i, r) ← readInstruction extended s
      let r := r.dropWhile (· = ' ')
      if r.head?.all fun c => c = ';' || c = '\n' then
        some (i :: (← readScript extended r fuel))
      else none

/-! ### Running -/

/-- The text that a replacement stands for at a match. -/
def fill (m : Regex.Match) : Text → Text
  | '&' :: r => m.text ++ fill m r
  | '\\' :: c :: r =>
    let t : Text :=
      if c.isDigit then
        (if c = '0' then m.text else (m.groups.lookup (c.toNat - '0'.toNat)).getD [])
      else if c = 'n' then ['\n']
      else if c = 't' then ['\t']
      else [c]
    t ++ fill m r
  | c :: r => c :: fill m r
  | [] => []

/-- The text with matches replaced, if there are any. -/
def substituteIn (r : Regex) (replacement : Text) (nth : Nat) (everywhere fold : Bool) (s : Text) :
    Option Text :=
  let found := (r.findAll fold s 0 (s.length + 1)).drop (nth - 1)
  let found := if everywhere then found else found.take 1
  if found.isEmpty then none
  else
    let (out, place) := found.foldl (fun (out, place) m =>
      (out ++ (s.drop place).take (m.before.length - place) ++ fill m replacement,
        m.before.length + m.text.length)) (([] : Text), 0)
    some (out ++ s.drop place)

/-- Whether an address names a line. -/
def Address.names (a : Address) (n : Nat) (isLast : Bool) (s : Text) : Bool :=
  match a with
  | .line m => m = n
  | .last => isLast
  | .matching r => (r.find false s 0).isSome

/-- Whether an instruction is for a line, and whether its range goes on behind the line. -/
def Instruction.selects (i : Instruction) (inside : Bool) (n : Nat) (isLast : Bool) (s : Text) :
    Bool × Bool :=
  match i.start, i.stop with
  | none, _ => (!i.negated, false)
  | some a, none => (a.names n isLast s != i.negated, false)
  | some a, some b =>
    let ended := match b with
      | .line m => m ≤ n
      | b => b.names n isLast s
    if inside then (!i.negated, !ended)
    else if a.names n isLast s then
      (!i.negated, match b with | .line m => n < m | _ => !isLast)
    else (i.negated, false)

/-- What a script makes of a line. -/
structure Result where
  line : Text
  printed : List Text
  deleted : Bool
  quits : Bool
  /-- For each instruction, whether its range goes on. -/
  inside : List Bool

/-- Runs a script for a line. -/
def runLine (n : Nat) (isLast : Bool) : List (Instruction × Bool) → Result → Result
  | [], r => r
  | (i, inside) :: is, r =>
    if r.deleted ∨ r.quits then
      runLine n isLast is { r with inside := r.inside ++ [inside] }
    else
      let (selected, goesOn) := i.selects inside n isLast r.line
      let r := { r with inside := r.inside ++ [goesOn] }
      if !selected then runLine n isLast is r
      else
        runLine n isLast is <| match i.action with
        | .delete => { r with deleted := true }
        | .print => { r with printed := r.printed ++ [r.line] }
        | .quit => { r with quits := true }
        | .substitute re replacement nth everywhere fold print =>
          match substituteIn re replacement nth everywhere fold r.line with
          | none => r
          | some t =>
            { r with line := t, printed := if print then r.printed ++ [t] else r.printed }

/-- Runs a script for lines. -/
def runLines (quiet : Bool) (is : List Instruction) (inside : List Bool) (n : Nat) :
    List Text → List Text
  | [] => []
  | l :: ls =>
    let r := runLine n ls.isEmpty (is.zip inside) ⟨l, [], false, false, []⟩
    let out := r.printed ++ (if r.deleted || quiet then [] else [r.line])
    if r.quits then out else out ++ runLines quiet is r.inside (n + 1) ls

end StreamEditor

/-- Edits its input. -/
def sed : Program := withOptions "sed" "nErs" "e" 1 fun o l =>
  let scripts := (o.given.filter (·.1 = 'e')).map (·.2)
  let (script, names) :=
    if scripts.isEmpty then (o.operands.headD [], o.operands.tail)
    else (Text.join ['\n'] scripts, o.operands)
  match StreamEditor.readScript (o.has 'E' || o.has 'r') script (script.length + 1) with
  | none => .failed 1 "sed: -e expression #1: unknown command"
  | some is =>
    let (ss, complaint) := inputs "sed" names l
    match ss.mapM Supply.whole? with
    | none => .endless
    | some ts =>
      let ls := linesOf ts.flatten
      let out := StreamEditor.runLines (o.has 'n') is (is.map fun _ => false) 1 ls
      { Product.ofText (ofLines out) with
        complaint := complaint
        status := if complaint.isEmpty then 0 else 2 }

end Shell

end TemplateFill
