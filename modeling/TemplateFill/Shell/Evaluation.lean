import TemplateFill.Shell.Expansion

/-!
# Running commands

`run` is what a command does to the state of a shell.  Its fuel bounds how deeply commands stand
inside each other; the rounds of a loop have a bound of their own, and a loop that reaches it counts
as one that does not end.

The commands of a pipeline run side by side: each has what the one before it writes as its input.
One that would write for ever ends when the one behind it does.
-/

namespace TemplateFill

namespace Shell

/-- The greatest number of rounds of a loop. -/
def maxRounds : Nat := 20000

/-- Does something again and again as long as it answers with truth. -/
def repeatWhile (step : State → Except Halt Bool × State) :
    Nat → State → Except Halt Unit × State
  | 0, s => (.error .endless, s)
  | n + 1, s =>
    match step s with
    | (.ok true, s) => repeatWhile step n s
    | (.ok false, s) => (.ok (), s)
    | (.error h, s) => (.error h, s)

/-- The body of a loop, which answers whether the loop goes on. -/
def loopBody (body : Action Unit) : Action Bool :=
  tryCatch (do body; return true) fun h =>
    match h with
    | .leave n => if 1 < n then throw (.leave (n - 1)) else return false
    | .again n => if 1 < n then throw (.again (n - 1)) else return true
    | h => throw h

/-- Does something for each of some texts. -/
def forEach (step : Text → Action Bool) : List Text → Action Unit
  | [] => pure ()
  | t :: ts => do if ← step t then forEach step ts

/-- A program runs with the input and the files of the shell. -/
def runProgram (p : Program) (args : List Text) : Action Unit := do
  let s ← get
  let r := p ⟨args, s.input, s.files⟩
  let lost := s.sink 1 = .closed ∧ ¬ r.output.isEmpty
  modify fun s => { s with
    clock := s.clock + r.time.getD 0, input := r.rest, status := if lost then 1 else r.status }
  Action.write 1 r.output
  Action.write 2 r.complaint
  if r.time.isNone then
    modify fun s => { s with cycle := if s.sink 1 = .output then r.cycle else [] }
    throw .endless

/-! ### Redirections -/

/-- The shell after a redirection. -/
def redirect (run : Substitution) (r : Redirection) : Action Unit := do
  let refuse (complaint : Text) : Action Unit := do
    Action.complain complaint
    Action.setStatus 2
    throw .unopened
  let fault (name : Text) (why : FileError) : Action Unit :=
    refuse ("cannot open " ++ name ++ ": " ++ why.message.takeWhile (· ≠ '('))
  let send (w : Word) (clear : Bool) : Action Unit := do
    let name ← expandWhole run w
    if name = "/dev/null".toList then modify (·.setSink r.descriptor .nowhere)
    else if name = "/dev/stdout".toList then modify fun s => s.setSink r.descriptor (s.sink 1)
    else if name = "/dev/stderr".toList then modify fun s => s.setSink r.descriptor (s.sink 2)
    else
      let s ← get
      match s.files.change name fun old => if clear then [] else old with
      | .ok files => set ({ s with files := files }.setSink r.descriptor (.file name))
      | .error why => fault name why
  match r.target with
  | .read w => do
    let name ← expandWhole run w
    let s ← get
    match openInput s.files s.input name with
    | .ok input => set { s with input := input }
    | .error why => fault name why
  | .document w => do
    let t ← expandWhole run w
    modify fun s => { s with input := .ofText t }
  | .write w => send w true
  | .append w => send w false
  | .duplicate w => do
    let t ← expandWhole run w
    if r.descriptor = 0 then
      if t = ['-'] then modify fun s => { s with input := .ended } else pure ()
    else
      match Text.toNat? t with
      | some n =>
        if (← get).sink n = .closed then refuse (t ++ ": Bad file descriptor")
        else modify fun s => s.setSink r.descriptor (s.sink n)
      | none => modify (·.setSink r.descriptor .closed)

/-- Whether redirections lead somewhere; if one does not, those behind it are not looked at. -/
def opens (run : Substitution) (rs : List Redirection) : Action Bool :=
  tryCatch (do rs.forM (redirect run); return true) fun h =>
    match h with
    | .unopened => return false
    | h => throw h

/-- Does something under redirections, which end with it, or something else if one of them leads
nowhere. -/
def redirectingOr (run : Substitution) (rs : List Redirection) (body otherwise : Action Unit) :
    Action Unit := do
  if rs.isEmpty then body
  else
    let before ← get
    let replacesInput := rs.any fun r => r.descriptor = 0
    let restore : Action Unit := modify fun s =>
      { s with
        sinks := before.sinks, input := if replacesInput then before.input else s.input }
    tryCatch (do if ← opens run rs then body else otherwise) fun h => do
      restore
      throw h
    restore

/-- Does something under redirections, which end with it, if all of them lead somewhere. -/
def redirecting (run : Substitution) (rs : List Redirection) (body : Action Unit) : Action Unit :=
  redirectingOr run rs body (pure ())

/-- Whether redirections lead the output away. -/
def leadAway (rs : List Redirection) : Bool := rs.any fun r => r.descriptor = 1

/-- Whether a command in the background holds the output open. -/
def holdsOutput : Command → Bool
  | .simple _ _ rs | .group _ rs | .subshell _ rs | .choice _ _ _ rs | .loop _ _ _ rs
  | .each _ _ _ rs | .select _ _ rs => !leadAway rs
  | _ => true

/-! ### Commands of the shell itself -/

/-- The number of a signal. -/
def signalNumber? (s : Text) : Option Nat :=
  let s := if "SIG".toList.isPrefixOf s then s.drop 3 else s
  match Text.toNat? s with
  | some n => some n
  | none =>
    [(("EXIT" : Text), 0), ("HUP", 1), ("INT", 2), ("QUIT", 3), ("KILL", 9), ("USR1", 10),
      ("USR2", 12), ("PIPE", 13), ("ALRM", 14), ("TERM", 15), ("CONT", 18), ("STOP", 19)].lookup s

/-- The key under which the command for a signal is kept. -/
def trapKey (s : Text) : Text := ((signalNumber? s).map Text.ofNat).getD s

/-- A signal arrives at the shell. -/
def receive (script : Text → Action Unit) (n : Nat) : Action Unit := do
  if n = 0 ∨ n = 18 then pure ()
  else if n = 9 then throw (.signal 9)
  else if n = 19 then throw .endless
  else match (← get).traps.lookup (Text.ofNat n) with
    | some t => if t.isEmpty then pure () else script t
    | none => throw (.signal n)

/-- The signal and the processes that the arguments of `kill` name. -/
def killArguments (args : List Text) : Option (Nat × List Text) :=
  match args with
  | ['-', 's'] :: n :: r => (signalNumber? n).map fun n => (n, r)
  | ['-', 'n'] :: n :: r => (signalNumber? n).map fun n => (n, r)
  | ['-', '-'] :: r => some (15, r)
  | ('-' :: n) :: r => (signalNumber? n).map fun n => (n, r)
  | r => some (15, r)

/-- Sends signals. -/
def kill (script : Text → Action Unit) (args : List Text) : Action Unit := do
  Action.setStatus 0
  match killArguments args with
  | none => Action.setStatus 2
  | some (_, []) => Action.setStatus 2
  | some (n, targets) =>
    targets.forM fun t => do
      let s ← get
      if t = Text.ofNat s.process ∨ t = ['0'] then receive script n
      else if s.jobs.any fun j => Text.ofNat j.number = t then
        if n ≠ 0 then
          set { s with jobs := s.jobs.map fun (j : Job) =>
            if Text.ofNat j.number = t then
              { j with ends := some (min s.clock (j.ends.getD s.clock)) }
            else j }
      else
        Action.complain ("kill: No such process")
        Action.setStatus 1

/-- A line in which backslashes only protect what is behind them. -/
def withoutEscapes : Text → Text
  | '\\' :: c :: r => c :: withoutEscapes r
  | ['\\'] => []
  | c :: r => c :: withoutEscapes r
  | [] => []

/-- Reads a line into variables. -/
def readLine (args : List Text) : Action Unit := do
  let names := args.filter fun a => a.head? ≠ some '-'
  let s ← get
  match s.input.takeLine? with
  | none => throw .endless
  | some (line, rest) =>
    let complete := line.getLast? = some '\n'
    let line := if complete then line.dropLast else line
    let line := if args.contains ['-', 'r'] then line else withoutEscapes line
    let isBlank (c : Char) : Bool := s.separators.contains c
    let rec assign (names : List Text) (t : Text) (s : State) : State :=
      let t := t.dropWhile isBlank
      match names with
      | [] => s
      | [n] => s.setVariable n (t.reverse.dropWhile isBlank).reverse
      | n :: ns =>
        let w := t.takeWhile fun c => !isBlank c
        assign ns (t.drop w.length) (s.setVariable n w)
    set (assign names line { s with input := rest, status := if complete then 0 else 1 })

/-- The letters of options, with their names. -/
def optionNames : List (Text × Char) :=
  [("errexit", 'e'), ("noglob", 'f'), ("ignoreeof", 'I'), ("interactive", 'i'), ("monitor", 'm'),
    ("noexec", 'n'), ("stdin", 's'), ("xtrace", 'x'), ("verbose", 'v'), ("vi", 'V'), ("emacs", 'E'),
    ("noclobber", 'C'), ("allexport", 'a'), ("notify", 'b'), ("nounset", 'u'), ("privileged", 'p')]

/-- The options that are set when arguments have been read, and the arguments behind them; there is
no result if an option does not exist.  `others` are letters that are options here only. -/
def readOptionArguments (others options : Text) : List Text → Option (Text × List Text)
  | [] => some (options, [])
  | ['-', 'o'] :: n :: r => do readOptionArguments others (options ++ [← optionNames.lookup n]) r
  | ['+', 'o'] :: n :: r => do
    let c ← optionNames.lookup n
    readOptionArguments others (options.filter (· ≠ c)) r
  | ['-', '-'] :: r | ['-'] :: r => some (options, r)
  | ('-' :: cs) :: r =>
    if cs.all fun c => others.contains c ∨ optionNames.any (·.2 = c) then
      readOptionArguments others (options ++ cs) r
    else none
  | ('+' :: cs) :: r => readOptionArguments others (options.filter (!cs.contains ·)) r
  | r => some (options, r)

/-- Sets options and arguments. -/
def setOptions (args : List Text) : Action Unit := do
  match readOptionArguments [] (← get).options args with
  | none => Action.giveUp 2 "set: Illegal option"
  | some (options, rest) =>
    modify fun s => { s with
      status := 0, options := options
      arguments := if rest.isEmpty ∧ args.getLast? ≠ some ['-', '-'] then s.arguments else rest }

/-- A status as an argument. -/
def statusArgument (args : List Text) (given : Nat) : Action Nat := do
  match args with
  | [] => return given
  | a :: _ =>
    match Text.toNat? a with
    | some n => return n % 256
    | none => Action.giveUp 2 ("Illegal number: " ++ a)

/-- Assigns and declares variables, of which something is done with each name first. -/
def assignAll (declare : Text → State → State) (args : List Text) : Action Unit := do
  Action.setStatus 0
  args.forM fun a =>
    match Text.splitOnce '=' a with
    | some (n, v) => modify fun s => (declare n s).setVariable n v
    | none => modify (declare a)

/-- The state with a variable that programs get to see. -/
def share (name : Text) (s : State) : State := { s with exported := name :: s.exported }

/-- The state with a variable that is set for the function that runs only. -/
def hide (name : Text) (s : State) : State :=
  { s with hidden := (name, s.bindings.lookup name) :: s.hidden }

/-- Waits for the jobs in the background. -/
def waitForJobs : Action Unit := do
  let s ← get
  match s.jobs.foldl (fun t (j : Job) => do return max (← t) (← j.ends)) (some s.clock) with
  | some t => set { s with clock := t, status := 0 }
  | none => throw .endless

/-- The shell runs a script and ends; what it does at its end is done too. -/
def runToEnd (script : Text → Action Unit) (s : Text) : Action Unit := do
  let finish : Action Unit := do
    match (← get).traps.lookup ['0'] with
    | some t =>
      let status := (← get).status
      modify fun s => { s with traps := s.traps.filter (·.1 ≠ ['0']) }
      tryCatch (do script t; Action.setStatus status) fun h =>
        match h with
        | .exit => pure ()
        | h => throw h
    | none => pure ()
  tryCatch (script s) fun h =>
    match h with
    | .endless | .signal _ => throw h
    | _ => pure ()
  finish

/-- What a shell is started to do. -/
structure Errand where
  options : Text
  script : Text
  /-- The name that the shell is given, if it is. -/
  name : Option Text
  arguments : List Text

/-- What a shell is started to do by its arguments: to run a script, a file or its input.  The error
is a complaint. -/
def Errand.read (args : List Text) (input : Supply) (files : FileTree) : Except Text Errand :=
  match readOptionArguments ['c', 'l'] [] args with
  | none => .error "Illegal option"
  | some (options, operands) =>
    let kept := options.filter (· ≠ 'c')
    match operands with
    | [] => if options.contains 'c' then .error "-c requires an argument"
      else .ok ⟨kept, (input.whole?).getD [], none, []⟩
    | operand :: rest =>
      if options.contains 'c' then .ok ⟨kept, operand, rest.head?, rest.tail⟩
      else if options.contains 's' then .ok ⟨kept, (input.whole?).getD [], none, operands⟩
      else match files.read operand with
        | .ok script => .ok ⟨kept, script, some operand, rest⟩
        | .error _ => .error ("cannot open " ++ operand ++ ": No such file")

/-- Another shell runs a script. -/
def runShell (script : Text → Action Unit) (name : Text) (args : List Text) : Action Unit := do
  let s ← get
  match Errand.read args s.input s.files with
  | .error complaint =>
    Action.write 2 (name ++ ": 0: " ++ complaint ++ ['\n'])
    Action.setStatus 2
  | .ok errand =>
    let inner : State := { s with
      name := errand.name.getD name, arguments := errand.arguments, functions := [], traps := []
      hidden := [], bindings := s.bindings.filter fun v => s.exported.contains v.1
      options := errand.options, process := s.process + 1, status := 0, guarded := false }
    let (r, t) := (runToEnd script errand.script).runIn inner
    let status : Nat := match r with
      | .error (.signal n) => 128 + n
      | _ => t.status
    set { s with
      written := t.written, cycle := t.cycle, clock := t.clock, jobs := t.jobs
      input := t.input, status := status
      files := { t.files with workingDirectory := s.files.workingDirectory } }
    if r matches .error .endless then throw .endless

/-- The commands of the shell itself that end the shell if their redirections lead nowhere. -/
def specialNames : List Text :=
  [[':'], ['.'], "eval", "exec", "exit", "export", "readonly", "return", "set", "shift", "trap",
    "unset", "break", "continue", "times"]

/-- A command of the shell itself; there is no result if the name is not one of these. -/
def builtin? (script : Text → Action Unit) (invoke : List Text → Action Unit) (name : Text)
    (args : List Text) : Option (Action Unit) :=
  match String.ofList name with
  | ":" => some (Action.setStatus 0)
  | "exit" => some do
    let n ← statusArgument args (← get).status
    Action.setStatus n
    throw .exit
  | "return" => some do
    let n ← statusArgument args (← get).status
    Action.setStatus n
    throw .back
  | "break" => some do throw (.leave ((args.head?.bind Text.toNat?).getD 1))
  | "continue" => some do throw (.again ((args.head?.bind Text.toNat?).getD 1))
  | "cd" => some do
    let s ← get
    let target := args.headD ['/']
    match s.files.find target with
    | .ok (.directory _) =>
      let names := Path.parts s.files.workingDirectory target
      set ({ s with files := { s.files with workingDirectory := names }, status := 0 }.setVariable
        "PWD" ('/' :: Text.join ['/'] names))
    | _ =>
      Action.complain ("cd: can't cd to " ++ target)
      Action.setStatus 2
  | "pwd" => some do
    let s ← get
    Action.setStatus 0
    Action.write 1 ('/' :: Text.join ['/'] s.files.workingDirectory ++ ['\n'])
  | "export" => some (assignAll share (args.filter (· ≠ ['-', 'p'])))
  | "readonly" => some (assignAll (fun _ s => s) args)
  | "local" => some (assignAll hide args)
  | "unset" => some do
    modify fun s => { s with
      status := 0
      bindings := s.bindings.filter fun v => !args.contains v.1
      functions := s.functions.filter fun f => !args.contains f.1 }
  | "set" => some (setOptions args)
  | "shift" => some do
    let n := (args.head?.bind Text.toNat?).getD 1
    modify fun s => { s with status := 0, arguments := s.arguments.drop n }
  | "trap" => some do
    Action.setStatus 0
    match args with
    | t :: r => do
      let keys := r.map trapKey
      modify fun s =>
        let others := s.traps.filter fun x => !keys.contains x.1
        { s with traps := if t = ['-'] then others else keys.map (·, t) ++ others }
    | [] => pure ()
  | "wait" => some waitForJobs
  | "kill" => some (kill script args)
  | "read" => some (readLine args)
  | "eval" => some do
    Action.setStatus 0
    script (Text.join [' '] args)
  | "." => some do
    let f := args.headD []
    match (← get).files.read f with
    | .ok t => script t
    | .error _ => Action.giveUp 2 (".: cannot open " ++ f)
  | "exec" => some do
    if args.isEmpty then pure ()
    else
      invoke args
      throw .exit
  | "env" => some do
    let settings := args.takeWhile (·.contains '=')
    let before ← get
    assignAll share settings
    match args.drop settings.length with
    | [] => pure ()
    | args => invoke args
    modify fun s => { s with bindings := before.bindings, exported := before.exported }
  | "command" | "nohup" =>
    match args with
    | [['-', 'v'], n] => some do
      if (programName? n).isSome then
        Action.setStatus 0
        Action.write 1 (n ++ ['\n'])
      else Action.setStatus 127
    | [] => some (Action.setStatus 0)
    | args => some (invoke args)
  | "umask" => some do
    Action.setStatus 0
    if args.isEmpty then Action.write 1 "0022\n"
  | "ulimit" | "alias" | "hash" => some (Action.setStatus 0)
  | _ => none

/-- Starts a program, or complains that there is none of the name. -/
def launch (script : Text → Action Unit) (name : Text) (args : List Text) : Action Unit := do
  match programName? name with
  | some n =>
    match program? n with
    | some p => runProgram p args
    | none => Action.inSubshell (runShell script n args)
  | none =>
    let s ← get
    if name.contains '/' ∧ s.files.contains name then
      Action.complain (name ++ ": Permission denied")
      Action.setStatus 126
    else
      Action.complain (name ++ ": not found")
      Action.setStatus 127

/-- The shell ends if a command has failed, nobody looks at its status, and it was told to. -/
def checkStatus : Action Unit := do
  let s ← get
  if s.status ≠ 0 ∧ ¬ s.guarded ∧ s.options.contains 'e' then throw .exit

/-! ### Commands -/

/-- Commands run side by side, each with the output of the one before it as its input.  `time` is
the time at which the last one of those before these ends, and `stuck` says that one does not. -/
def runStages (start : State) (time : Nat) (stuck : Bool) (input : Supply) :
    List (Action Unit) → Action Unit
  | [] => pure ()
  | [a] => do
    Action.inSubshell do
      modify fun s => { s with input := input, clock := start.clock }
      a
    if stuck then throw .endless
    modify fun s => { s with clock := max time s.clock, input := start.input }
  | a :: as => do
    let s : State := { start with input := input, written := [], cycle := [] }
    let (r, t) := a.runIn (s.setSink 1 .output)
    modify fun s => { s with files := { t.files with workingDirectory := s.files.workingDirectory } }
    match r with
    | .error (.signal n) => throw (.signal n)
    | .error .endless =>
      let silent := t.cycle.isEmpty && t.output.isEmpty
      runStages start time (stuck || silent) ⟨t.output, t.cycle, t.cycle.isEmpty⟩ as
    | _ => runStages start (max time (t.heldUntil.getD t.clock)) stuck (.ofText t.output) as

/-- What a command does. -/
def run : Nat → Command → Action Unit
  | 0, _ => throw .endless
  | fuel + 1, c => do
    let script (text : Text) : Action Unit := do
      let s := Script.read text
      s.lines.forM (run fuel)
      if s.isBroken then Action.giveUp 2 "Syntax error"
    let substitute (text : Text) : Action Text := Action.capture (script text)
    let invoke (args : List Text) : Action Unit := do
      match args with
      | [] => pure ()
      | name :: args =>
        let s ← get
        let name := ((programName? name).filter (starters.contains ·)).getD name
        match s.functions.lookup name with
        | some body =>
          modify fun t => { t with arguments := args }
          tryCatch (run fuel body) fun h =>
            match h with
            | .back => pure ()
            | h => throw h
          modify fun t => { t.uncover s.hidden.length with arguments := s.arguments }
        | none =>
          match builtin? script (fun as => launch script (as.headD []) as.tail) name args with
          | some a => a
          | none => launch script name args
    match c with
    | .simple assignments words rs => do
      modify fun s => { s with substituted := none }
      let args ← expandWords substitute words
      let assign (declare : Text → State → State) : Action Unit := assignments.forM fun a => do
        let v ← expandWhole substitute a.2
        modify fun s => (declare a.1 s).setVariable a.1 v
      if args.isEmpty then
        redirecting substitute rs (pure ())
        assign fun _ s => s
        modify fun s => { s with status := s.substituted.getD 0 }
      else if args = [("exec" : Text)] then
        if ¬ (← opens substitute rs) then throw .exit
      else
        let before ← get
        let isSpecial := specialNames.contains (args.headD [])
        redirectingOr substitute rs (do assign share; invoke args)
          (if isSpecial then throw .exit else pure ())
        if ¬ assignments.isEmpty then
          modify fun s => { s with bindings := before.bindings, exported := before.exported }
      checkStatus
    | .pipeline negated stages => do
      match stages with
      | [single] => Action.guarding (run fuel single)
      | stages => do
        let s ← get
        runStages s s.clock false s.input (stages.map (run fuel))
      if negated then
        modify fun s => { s with status := if s.status = 0 then 1 else 0 }
      else checkStatus
    | .and a b => do
      Action.guarding (run fuel a)
      if (← get).status = 0 then run fuel b
    | .or a b => do
      Action.guarding (run fuel a)
      if (← get).status ≠ 0 then run fuel b
    | .list items =>
      items.forM fun item => do
        if item.2 then
          let s ← get
          let (r, t) := (run fuel item.1).runIn { s with input := .ended, jobs := [] }
          let ends := if r matches .error .endless then none else t.heldUntil
          let job : Job := ⟨s.process + 1 + s.jobs.length, ends, holdsOutput item.1⟩
          set { s with
            written := t.written, jobs := job :: s.jobs, status := 0
            files := { t.files with workingDirectory := s.files.workingDirectory } }
        else run fuel item.1
    | .group body rs => redirecting substitute rs (run fuel body)
    | .subshell body rs => do
      redirecting substitute rs (Action.inSubshell (run fuel body))
      checkStatus
    | .choice test yes no rs =>
      redirecting substitute rs do
        Action.guarding (run fuel test)
        if (← get).status = 0 then run fuel yes
        else
          Action.setStatus 0
          run fuel no
    | .loop whileTrue test body rs =>
      redirecting substitute rs do
        let round : Action Bool := do
          let last := (← get).status
          Action.guarding (run fuel test)
          if ((← get).status == 0) = whileTrue then loopBody (run fuel body)
          else
            Action.setStatus last
            return false
        Action.setStatus 0
        let (r, s) := repeatWhile (fun s => round.runIn s) maxRounds (← get)
        set s
        match r with
        | .ok () => pure ()
        | .error h => throw h
    | .each name words body rs =>
      redirecting substitute rs do
        let ts ← match words with
          | some ws => expandWords substitute ws
          | none => do pure (← get).arguments
        Action.setStatus 0
        forEach (fun t => do
          modify (·.setVariable name t)
          loopBody (run fuel body)) ts
    | .select subject branches rs =>
      redirecting substitute rs do
        let t ← expandWhole substitute subject
        Action.setStatus 0
        let fits (w : Word) : Action Bool := do
          return Pattern.accepts (Glyph.pattern (← expandParts substitute false w wordFuel)) t
        match ← branches.findM? fun b => b.1.anyM fits with
        | some b => run fuel b.2
        | none => pure ()
    | .define name body =>
      modify fun s => { s with status := 0, functions := (name, body) :: s.functions }

/-- How deeply commands may stand inside each other. -/
def maxDepth : Nat := 400

/-- Runs a script. -/
def runScript (text : Text) : Action Unit :=
  run maxDepth (.simple [] [[.literal "eval" true], [.literal text true]] [])

end Shell

end TemplateFill
