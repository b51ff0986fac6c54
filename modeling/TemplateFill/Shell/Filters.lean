import TemplateFill.Shell.Regex
import TemplateFill.Shell.Supply
import TemplateFill.Text.Named

/-!
# Programs that read text

The usual filters, with their usual options.  A filter reads the files that its operands name, one
behind the other, or else its input.
-/

namespace TemplateFill

namespace Shell

/-- What a program is started with. -/
structure Launch where
  arguments : List Text
  input : Supply
  files : FileTree

/-- A program. -/
abbrev Program := Launch → Product

/-! ### Options and operands -/

/-- Arguments sorted into options, each with its value if it has one, and operands. -/
structure Options where
  given : List (Char × Text)
  operands : List Text

namespace Options

/-- Whether an option is given. -/
def has (o : Options) (c : Char) : Bool := o.given.any (·.1 = c)

/-- The last value that an option is given. -/
def value? (o : Options) (c : Char) : Option Text := o.given.reverse.lookup c

/-- The last number that an option is given. -/
def number? (o : Options) (c : Char) : Option Nat := (o.value? c).bind Text.toNat?

/-- One more option. -/
def add (o : Options) (c : Char) (v : Text) : Options := { o with given := (c, v) :: o.given }

/-- Reads the letters of one argument; the last one may take its value from the next argument. -/
def letters (flags valued : Text) (next : Option Text) : Text → Option (List (Char × Text) × Bool)
  | [] => some ([], false)
  | c :: r =>
    if valued.contains c then
      if r.isEmpty then next.map fun v => ([(c, v)], true) else some ([(c, r)], false)
    else if flags.contains c then
      (letters flags valued next r).map fun p => ((c, []) :: p.1, p.2)
    else none

/-- Reads arguments; an option that does not exist is an error. -/
def readArguments (flags valued : Text) (args : List Text) : Nat → Option Options
  | 0 => none
  | fuel + 1 =>
    match args with
    | [] => some ⟨[], []⟩
    | ['-', '-'] :: r => some ⟨[], r⟩
    | ('-' :: c :: cs) :: r => do
      let (given, usesNext) ← letters flags valued r.head? (c :: cs)
      let rest ← readArguments flags valued (if usesNext then r.tail else r) fuel
      some { rest with given := given ++ rest.given }
    | a :: r => do
      let rest ← readArguments flags valued r fuel
      some { rest with operands := a :: rest.operands }

/-- The options and operands of a program. -/
def read (flags valued : Text) (args : List Text) : Option Options :=
  readArguments flags valued args (args.length + 1)

end Options

/-- A program that knows its options. -/
def withOptions (name flags valued : Text) (status : Nat) (run : Options → Launch → Product) :
    Program := fun l =>
  match Options.read flags valued l.arguments with
  | some o => run o l
  | none => .failed status (name ++ ": invalid option")

/-- The inputs that operands name, and the complaints about those that cannot be read. -/
def inputs (name : Text) (operands : List Text) (l : Launch) : List Supply × Text :=
  if operands.isEmpty then ([l.input], [])
  else operands.foldl (fun (ss, complaint) f =>
    match openInput l.files l.input f with
    | .ok s => (ss ++ [s], complaint)
    | .error e =>
      let why := e.message.takeWhile (· ≠ '(')
      (ss, complaint ++ name ++ ": " ++ f ++ ": " ++ why.dropLast ++ ['\n'])) ([], [])

/-- A filter that needs its whole input, with the status for files that cannot be read. -/
def wholeFilter (name flags valued : Text) (status : Nat) (run : Options → Text → Text × Nat) :
    Program :=
  withOptions name flags valued status fun o l =>
    let (ss, complaint) := inputs name o.operands l
    match ss.mapM Supply.whole? with
    | none => .endless
    | some ts =>
      let (out, n) := run o ts.flatten
      { Product.ofText out with
        complaint := complaint
        status := if complaint.isEmpty then n else status }

/-- A filter of lines. -/
def lineFilter (name flags valued : Text) (run : Options → List Text → List Text) : Program :=
  wholeFilter name flags valued 1 fun o s => (ofLines (run o (linesOf s)), 0)

/-! ### Whole lines -/

/-- Copies its input. -/
def cat : Program := withOptions "cat" "uvte" [] 1 fun o l =>
  let (ss, complaint) := inputs "cat" o.operands l
  let all := ss.foldl Supply.append .ended
  { Product.ofText all.front with
    cycle := all.cycle
    time := if all.stalls ∨ ¬ all.cycle.isEmpty then none else some 0
    complaint := complaint
    status := if complaint.isEmpty then 0 else 1 }

/-- Arguments with a count such as `-5` as the value of the option `n`. -/
def expandCount : List Text → List Text
  | ('-' :: c :: cs) :: r => if c.isDigit then ['-', 'n'] :: (c :: cs) :: r else ('-' :: c :: cs) :: r
  | args => args

/-- Copies the beginning of its input. -/
def head : Program := fun l =>
  withOptions "head" "qv" "nc" 1 (fun o l =>
    let (ss, complaint) := inputs "head" o.operands l
    let all := ss.foldl Supply.append .ended
    let taken := match o.value? 'c', o.value? 'n' with
      | some ('-' :: n), _ =>
        all.whole?.map fun (s : Text) => (s.take (s.length - (Text.toNat? n).getD 0), Supply.ended)
      | some n, _ => all.take? ((Text.toNat? n).getD 0)
      | none, some ('-' :: n) =>
        all.whole?.map fun (s : Text) =>
          let ls := linesOf s
          (ofLines (ls.take (ls.length - (Text.toNat? n).getD 0)), Supply.ended)
      | none, n => all.takeLines? ((n.bind Text.toNat?).getD 10)
    match taken with
    | some (out, _) =>
      { Product.ofText out with
        complaint := complaint
        status := if complaint.isEmpty then 0 else 1 }
    | none => .endless) { l with arguments := expandCount l.arguments }

/-- Copies the end of its input. -/
def tail : Program := fun l =>
  wholeFilter "tail" "fqv" "nc" 1 (fun o s =>
    let pick (given : Text) (pieces : List Text) : List Text :=
      match given with
      | '+' :: n => pieces.drop ((Text.toNat? n).getD 1 - 1)
      | '-' :: n | n =>
        let k := (Text.toNat? n).getD 10
        pieces.drop (pieces.length - k)
    match o.value? 'c' with
    | some n => ((pick n (s.map fun c => [c])).flatten, 0)
    | none => (ofLines (pick ((o.value? 'n').getD "10") (linesOf s)), 0))
    { l with arguments := expandCount l.arguments }

/-- The lines in reverse. -/
def tac : Program := lineFilter "tac" [] [] fun _ ls => ls.reverse

/-- Each line reversed. -/
def rev : Program := lineFilter "rev" [] [] fun _ ls => ls.map List.reverse

/-- The number at the start of a line, in thousandths. -/
def leadingNumber (s : Text) : Int :=
  let s := s.dropWhile fun c => c = ' ' || c = '\t'
  let (sign, s) : Int × Text := match s with
    | '-' :: r => (-1, r)
    | r => (1, r)
  let whole := s.takeWhile Char.isDigit
  let part := match s.drop whole.length with
    | '.' :: r => r.takeWhile Char.isDigit
    | _ => []
  sign * Nat.ofDigitChars 10 (whole ++ (part ++ ['0', '0', '0']).take 3) 0

/-- The field of a line that sorting goes by. -/
def sortField (separator : Option Char) (n : Nat) (line : Text) : Text :=
  match separator with
  | some c => Text.join [c] ((Text.pieces c line).drop (n - 1))
  | none =>
    let rec skip : Nat → Text → Text
      | 0, s => s
      | n + 1, s => skip n ((s.dropWhile (· = ' ')).dropWhile (· ≠ ' '))
    skip (n - 1) line

/-- The lines in order. -/
def sort : Program := lineFilter "sort" "rnubfs" "kt" fun o ls =>
  let separator := (o.value? 't').bind List.head?
  let field := (o.value? 'k').bind fun k => Text.toNat? (k.takeWhile Char.isDigit)
  let modifiers := ((o.value? 'k').getD []).filter Char.isAlpha
  let key (l : Text) : Text :=
    let l := match field with
      | some n => sortField separator n l
      | none => l
    let l := if o.has 'b' then l.dropWhile (· = ' ') else l
    if o.has 'f' then l.map Char.toUpper else l
  let numeric := o.has 'n' || modifiers.contains 'n'
  let reversed := o.has 'r' || modifiers.contains 'r'
  let order (a b : Text) : Ordering :=
    if numeric then compare (leadingNumber (key a)) (leadingNumber (key b))
    else Text.order (key a) (key b)
  let full (a b : Text) : Ordering :=
    let first := if reversed then order b a else order a b
    if first ≠ .eq ∨ o.has 's' ∨ o.has 'u' then first
    else if o.has 'r' then Text.order b a else Text.order a b
  let sorted := ls.mergeSort fun a b => full a b ≠ .gt
  if o.has 'u' then
    (sorted.foldl (fun out l =>
      match out with
      | p :: _ => if order p l = .eq then out else l :: out
      | [] => [l]) []).reverse
  else sorted

/-- The runs of equal neighbours, each with its first line and its length. -/
def runs (same : Text → Text → Bool) : List Text → List (Text × Nat)
  | [] => []
  | l :: ls =>
    match runs same ls with
    | (m, n) :: rest => if same l m then (l, n + 1) :: rest else (l, 1) :: (m, n) :: rest
    | [] => [(l, 1)]

/-- One line of each run of equal ones. -/
def uniq : Program := lineFilter "uniq" "cdui" [] fun o ls =>
  let fold (l : Text) : Text := if o.has 'i' then l.map Char.toLower else l
  let rs := runs (fun a b => fold a = fold b) ls
  let rs := if o.has 'd' then rs.filter (1 < ·.2) else rs
  let rs := if o.has 'u' then rs.filter (·.2 = 1) else rs
  rs.map fun r => if o.has 'c' then Text.padLeft 7 (Text.ofNat r.2) ++ ' ' :: r.1 else r.1

/-- The ranges of a list such as `1,3-5`. -/
def readRangeList (s : Text) : List (Nat × Option Nat) :=
  (Text.pieces ',' s).map fun r =>
    match Text.splitOnce '-' r with
    | none => ((Text.toNat? r).getD 0, Text.toNat? r)
    | some (a, b) => ((Text.toNat? a).getD 1, Text.toNat? b)

/-- The items whose numbers, counted from one, are in some ranges. -/
def chosen {α : Type} (ranges : List (Nat × Option Nat)) (items : List α) : List α :=
  (items.zipIdx 1).filterMap fun (a, n) =>
    if ranges.any fun r => r.1 ≤ n ∧ r.2.all (n ≤ ·) then some a else none

/-- Some characters or fields of each line. -/
def cut : Program := lineFilter "cut" "sn" "dfcb" fun o ls =>
  match (o.value? 'c').orElse fun _ => o.value? 'b' with
  | some list => ls.map (chosen (readRangeList list))
  | none =>
    let d := ((o.value? 'd').bind List.head?).getD '\t'
    let ranges := readRangeList ((o.value? 'f').getD [])
    ls.filterMap fun l =>
      if l.contains d then some (Text.join [d] (chosen ranges (Text.pieces d l)))
      else if o.has 's' then none
      else some l

/-- The numbers of lines, words and characters. -/
def wc : Program := wholeFilter "wc" "lwcm" [] 1 fun o s =>
  let words := (s.foldl (fun (n, inside) c =>
    let blank : Bool := c = ' ' || ('\t' ≤ c && c ≤ '\r')
    (if inside || blank then n else n + 1, !blank)) (0, false)).1
  let all := !(o.has 'l' || o.has 'w' || o.has 'c' || o.has 'm')
  let counts :=
    (if all || o.has 'l' then [s.count '\n'] else [])
      ++ (if all || o.has 'w' then [words] else [])
      ++ (if all || o.has 'c' || o.has 'm' then [s.length] else [])
  let width := if 1 < counts.length ∧ o.operands.isEmpty then 7 else 1
  let shown := Text.join [' '] (counts.map fun n => Text.padLeft width (Text.ofNat n))
  (Text.join [' '] (shown :: o.operands) ++ ['\n'], 0)

/-- Numbers the lines. -/
def nl : Program := lineFilter "nl" [] "b" fun _ ls =>
  (ls.foldl (fun (n, out) l =>
    if l.isEmpty then (n, "       " :: out)
    else (n + 1, (Text.padLeft 6 (Text.ofNat n) ++ '\t' :: l) :: out))
    (1, ([] : List Text))).2.reverse

/-! ### Characters -/

/-- The characters of a set such as `a-z`, with named classes and escapes. -/
def readCharacters (s : Text) : Nat → Text
  | 0 => []
  | fuel + 1 =>
    let one : Text → Option (Char × Text)
      | '\\' :: 'n' :: r => some ('\n', r)
      | '\\' :: 't' :: r => some ('\t', r)
      | '\\' :: 'r' :: r => some ('\r', r)
      | '\\' :: c :: r =>
        if '0' ≤ c ∧ c ≤ '7' then
          let ds := ((c :: r).take 3).takeWhile fun c => '0' ≤ c && c ≤ '7'
          some (Char.ofNat (Nat.ofDigitChars 8 ds 0 % 256), (c :: r).drop ds.length)
        else some (c, r)
      | c :: r => some (c, r)
      | [] => none
    let between (r : Char × Char) : Text :=
      (List.range (r.2.toNat + 1 - r.1.toNat)).map fun k => Char.ofNat (r.1.toNat + k)
    match s with
    | '[' :: ':' :: r =>
      let name := r.takeWhile Char.isAlpha
      ((Regex.classRanges name).mergeSort fun a b => a.1 ≤ b.1).flatMap between
        ++ readCharacters ((r.drop name.length).drop 2) fuel
    | s =>
      match one s with
      | none => []
      | some (a, '-' :: r) =>
        match one r with
        | some (b, r) => between (a, b) ++ readCharacters r fuel
        | none => [a, '-']
      | some (a, r) => a :: readCharacters r fuel

/-- A character for another: those of one set become those of another in order, the last of which
stands in for those that are missing. -/
def exchange (a b : Text) (c : Char) : Char :=
  match (a.reverse.idxOf? c).map fun k => a.length - 1 - k with
  | none => c
  | some k => (b[k]?).getD (b.getLast?.getD c)

/-- Replaces or deletes characters. -/
def tr : Program := withOptions "tr" "dsc" [] 1 fun o l =>
  let set (n : Nat) : Text :=
    match o.operands[n]? with
    | some s => readCharacters s (s.length + 1)
    | none => []
  let first := set 0
  let inFirst (c : Char) : Bool := first.contains c != o.has 'c'
  let squeezed (p : Char → Bool) (s : Text) : Text :=
    (s.foldl (fun out c => if p c && out.head? = some c then out else c :: out) []).reverse
  let change (s : Text) : Text :=
    if o.has 'd' then
      let s := s.filter fun c => !inFirst c
      if o.has 's' then squeezed (set 1).contains s else s
    else
      let second := set 1
      let s :=
        if second.isEmpty then s
        else if o.has 'c' then s.map fun c => if inFirst c then second.getLast?.getD c else c
        else s.map (exchange first second)
      if o.has 's' then squeezed (if second.isEmpty then inFirst else second.contains) s else s
  { Product.ofText (change l.input.front) with
    cycle := change l.input.cycle
    time := if l.input.whole?.isSome then some 0 else none }

/-! ### Searching -/

/-- The lines with a match. -/
def grep : Program := withOptions "grep" "vicEFGnqxowshHa" "em" 2 fun o l =>
  let (pattern, names) := match o.value? 'e' with
    | some p => (p, o.operands)
    | none => (o.operands.headD [], o.operands.tail)
  let literal (s : Text) : Option Regex :=
    some (s.foldr (fun c r => .both (.piece (.exactly c)) r) .empty)
  let readOne (s : Text) : Option Regex :=
    let r := if o.has 'F' then literal s else Regex.read? (o.has 'E') s
    if o.has 'x' then r.map fun r => .both .atStart (.both r .atEnd) else r
  match (Text.pieces '\n' pattern).mapM readOne with
  | none => .failed 2 "grep: invalid pattern"
  | some rs =>
    let (ss, complaint) := inputs "grep" names l
    match ss.mapM Supply.whole? with
    | none => .endless
    | some ts =>
      let isWord (c : Char) : Bool := c.isAlphanum || c = '_'
      let wordEnds (m : Regex.Match) : Bool :=
        !o.has 'w' || (!m.before.getLast?.any isWord && !m.after.head?.any isWord)
      let matchesIn (s : Text) : List Regex.Match :=
        rs.flatMap fun r => (r.findAll (o.has 'i') s 0 (s.length + 1)).filter wordEnds
      let hits := ((linesOf ts.flatten).zipIdx 1).filter fun p =>
        (!(matchesIn p.1).isEmpty) != o.has 'v'
      let hits := match o.number? 'm' with
        | some n => hits.take n
        | none => hits
      let shown : List Text := hits.flatMap fun (s, n) =>
        let mark : Text := if o.has 'n' then Text.ofNat n ++ [':'] else []
        if o.has 'o' then
          ((matchesIn s).filter fun m => !m.text.isEmpty).map fun m => mark ++ m.text
        else [mark ++ s]
      let out :=
        if o.has 'q' then []
        else if o.has 'c' then Text.ofNat hits.length ++ ['\n']
        else ofLines shown
      { Product.ofText out with
        complaint := complaint
        status := if ¬ complaint.isEmpty then 2 else if hits.isEmpty then 1 else 0 }

end Shell

end TemplateFill
