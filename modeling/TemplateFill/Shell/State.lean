import TemplateFill.Shell.Programs
import TemplateFill.Shell.Reader

/-!
# The state of a shell

Time passes only where a program takes time, and it is counted from the start of the shell.  What
is written is kept with the time at which it is written, because commands in the background write
at times of their own.
-/

namespace TemplateFill

namespace Shell

/-- Where what is written to a descriptor goes. -/
inductive Sink where
  | output
  | nowhere
  /-- The descriptor is not open. -/
  | closed
  | file (p : Path)
  deriving DecidableEq, Repr

/-- A command in the background. -/
structure Job where
  number : Nat
  /-- The time at which it ends, if it does. -/
  ends : Option Nat
  /-- Whether it holds the output open. -/
  holds : Bool
  deriving Repr

/-- The state of a shell. -/
structure State where
  /-- The name that the shell goes by. -/
  name : Text
  arguments : List Text
  bindings : List (Text × Text)
  /-- The names of the variables that programs get to see. -/
  exported : List Text
  /-- The values that local variables had outside the function that runs. -/
  hidden : List (Text × Option Text)
  functions : List (Text × Command)
  /-- The commands for signals; an empty one means that the signal is ignored. -/
  traps : List (Text × Text)
  status : Nat
  /-- The status of the last command whose output became part of a word. -/
  substituted : Option Nat
  /-- The number of the process. -/
  process : Nat
  clock : Nat
  /-- What has been written to the output and when, the last first. -/
  written : List (Nat × Text)
  /-- The text that is written over and over at the end. -/
  cycle : Text
  sinks : List (Nat × Sink)
  input : Supply
  files : FileTree
  jobs : List Job
  /-- The letters of the options that are set. -/
  options : Text
  /-- Whether the status of the command that runs is looked at. -/
  guarded : Bool

/-- Why a command does not run to its end. -/
inductive Halt where
  /-- The shell ends with the status that it has. -/
  | exit
  /-- The shell is ended by a signal. -/
  | signal (n : Nat)
  /-- The command does not end. -/
  | endless
  /-- Loops are left. -/
  | leave (levels : Nat)
  /-- Loops go on with the next round. -/
  | again (levels : Nat)
  /-- A function returns. -/
  | back
  /-- A redirection leads nowhere. -/
  | unopened
  deriving DecidableEq, Repr

/-- Something that a shell does. -/
abbrev Action := ExceptT Halt (StateM State)

namespace State

/-- A shell that has just been started. -/
def start (files : FileTree) (name : Text) (arguments : List Text) : State where
  name := name
  arguments := arguments
  bindings := [("PWD", '/' :: Text.join ['/'] files.workingDirectory), ("OPTIND", ['1']),
    ("PPID", ['1']), ("PATH", "/usr/local/sbin:/usr/local/bin:/usr/sbin:/usr/bin:/sbin:/bin")]
  exported := ["PWD", "PATH"]
  hidden := []
  functions := []
  traps := []
  status := 0
  substituted := none
  process := 100
  clock := 0
  written := []
  cycle := []
  sinks := [(1, .output), (2, .nowhere)]
  input := .ended
  files := files
  jobs := []
  options := []
  guarded := false

/-- Where what is written to a descriptor goes. -/
def sink (s : State) (n : Nat) : Sink := (s.sinks.lookup n).getD .closed

/-- The state with what is written to a descriptor going elsewhere. -/
def setSink (s : State) (n : Nat) (k : Sink) : State := { s with sinks := (n, k) :: s.sinks }

/-- The state with a text written to a descriptor. -/
def write (s : State) (n : Nat) (t : Text) : State :=
  if t.isEmpty then s
  else match s.sink n with
    | .output => { s with written := (s.clock, t) :: s.written }
    | .nowhere | .closed => s
    | .file p =>
      match s.files.append p t with
      | .ok files => { s with files := files }
      | .error _ => s

/-- The state with a value for a variable. -/
def setVariable (s : State) (name value : Text) : State :=
  { s with bindings := (name, value) :: s.bindings.filter (·.1 ≠ name) }

/-- The state with the variables that were hidden by local ones, of which the first `n` are to
be kept hidden. -/
def uncover (s : State) (n : Nat) : State :=
  let (now, later) := s.hidden.splitAt (s.hidden.length - n)
  now.foldl (fun s v =>
    { s with bindings := v.2.toList.map (v.1, ·) ++ s.bindings.filter (·.1 ≠ v.1) })
    { s with hidden := later }

/-- The value of a variable, or of one that the shell itself sets. -/
def lookup? (s : State) (name : Text) : Option Text :=
  match name with
  | ['?'] => some (Text.ofNat s.status)
  | ['$'] => some (Text.ofNat s.process)
  | ['!'] => (s.jobs.head?).map fun j => Text.ofNat j.number
  | ['#'] => some (Text.ofNat s.arguments.length)
  | ['-'] => some s.options
  | ['0'] => some s.name
  | ['@'] | ['*'] => if s.arguments.isEmpty then none else some (Text.join [' '] s.arguments)
  | _ =>
    match Text.toNat? name with
    | some n => s.arguments[n - 1]?
    | none => s.bindings.lookup name

/-- The characters at which what is not quoted is split. -/
def separators (s : State) : Text := (s.lookup? "IFS").getD " \t\n"

/-- The same where something is split, and none elsewhere. -/
def separatorsIf (s : State) (split : Bool) : Text := if split then s.separators else []

/-- What has been written, in the order of the times. -/
def output (s : State) : Text :=
  ((s.written.reverse.mergeSort fun a b => a.1 ≤ b.1).map Prod.snd).flatten

/-- The time at which the last job ends that holds the output open; none if one does not end. -/
def heldUntil (s : State) : Option Nat :=
  (s.jobs.filter Job.holds).foldl (fun t j => do return max (← t) (← j.ends)) (some s.clock)

end State

namespace Action

/-- Writes to a descriptor. -/
def write (n : Nat) (t : Text) : Action Unit := modify (·.write n t)

/-- Sets the status. -/
def setStatus (n : Nat) : Action Unit := modify fun s => { s with status := n }

/-- Complains, as a shell does. -/
def complain (t : Text) : Action Unit := do
  write 2 ((← get).name ++ ": 1: " ++ t ++ ['\n'])

/-- Complains and ends the shell. -/
def giveUp {α : Type} (n : Nat) (complaint : Text) : Action α := do
  complain complaint
  setStatus n
  throw .exit

/-- What comes of an action in a state. -/
def runIn {α : Type} (a : Action α) (s : State) : Except Halt α × State := a.run.run s

/-- Does something, with the status that comes of it not being looked at. -/
def guarding (a : Action Unit) : Action Unit := do
  let before := (← get).guarded
  modify fun s => { s with guarded := true }
  a
  modify fun s => { s with guarded := before }

/-- Does something in a copy of the shell. -/
def inSubshell (a : Action Unit) : Action Unit := do
  let s ← get
  let (r, t) := a.runIn { s with traps := s.traps.filter (·.2.isEmpty) }
  set { s with
    written := t.written, cycle := t.cycle, clock := t.clock, jobs := t.jobs, status := t.status,
    input := t.input
    files := { t.files with workingDirectory := s.files.workingDirectory } }
  match r with
  | .error .endless => throw .endless
  | .error (.signal n) => throw (.signal n)
  | _ => pure ()

/-- The output of something that is done in a copy of the shell.  It is complete when nothing holds
it open any more. -/
def capture (a : Action Unit) : Action Text := do
  let s ← get
  let (r, t) := a.runIn
    ({ s with written := [], traps := s.traps.filter (·.2.isEmpty) }.setSink 1 .output)
  match r, t.heldUntil with
  | .error (.signal n), _ => throw (.signal n)
  | .error .endless, _ | _, none => throw .endless
  | _, some time =>
    set { s with
      clock := time, status := t.status, substituted := some t.status, input := t.input
      files := { t.files with workingDirectory := s.files.workingDirectory } }
    return t.output

end Action

end Shell

end TemplateFill
