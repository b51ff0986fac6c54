import TemplateFill.Resolver.Waiting
import TemplateFill.Shell.Evaluation

/-!
# Programs as the resolver sees them

A program that has been started ends at some time with a status or by a signal, or does not end at
all.  Its output is complete when the program and all that runs in the background has closed it.
-/

namespace TemplateFill

namespace Shell

/-- A program that has been started.  Times are in nanoseconds since the start. -/
structure Process where
  /-- When and how it ends, if it does. -/
  ends : Option (Nat × Exit)
  output : List UInt8
  /-- When the output is closed, if it is. -/
  closes : Option Nat
  deriving Repr

/-- A text with one character for each byte. -/
def bytesOf (s : Text) : Text := (Utf8.encode s).map fun b => Char.ofNat b.toNat

/-- The bytes for which the characters of a text stand. -/
def toBytes (s : Text) : List UInt8 := s.map fun c => c.toNat.toUInt8

namespace Process

/-- How a process goes on, for somebody who looks at it without delay. -/
def course (p : Process) (limit : Duration) : Course limit where
  sight n :=
    match p.ends with
    | some (t, e) => if t ≤ min (n * Course.interval.nanos) limit.nanos then .ended e else .running
    | none => .running
  clock n := ⟨min (n * Course.interval.nanos) limit.nanos⟩
  goesOn n := by
    show min (n * Course.interval.nanos) limit.nanos +
        min Course.interval.nanos (limit.nanos - min (n * Course.interval.nanos) limit.nanos) ≤
      min ((n + 1) * Course.interval.nanos) limit.nanos
    rw [Nat.succ_mul]
    omega
  lead := ⟨0⟩
  reading time :=
    match p.ends, p.closes with
    | some (t, _), some c => if c ≤ t + time.nanos then .output p.output else .late
    | _, _ => .late

/-- The time that it takes to start a program. -/
def startup : Nat := (Duration.ofMillis 1).nanos

/-- The process of a shell that has done something. -/
def ofRun (r : Except Halt Unit) (s : State) : Process :=
  let ends := match r with
    | .error .endless => none
    | .error (.signal _) => some (startup + s.clock, Exit.signal)
    | _ => some (startup + s.clock, .status s.status)
  ⟨ends, toBytes s.output, s.heldUntil.map (startup + ·)⟩

end Process

/-- The start of a program by its name or path, with arguments. -/
def start (files : FileTree) : Starter := fun program arguments =>
  if program.contains '\x00' ∨ arguments.any (·.contains '\x00') then
    .refused "nul byte found in provided data"
  else
    match programName? program with
    | none =>
      let why : Text :=
        if ¬ program.contains '/' then FileError.notFound.message
        else match files.find program with
          | .ok _ => "Permission denied (os error 13)"
          | .error e => e.message
      .refused why
    | some name =>
      let arguments := arguments.map bytesOf
      let s := State.start files (bytesOf program) arguments
      let action : Action Unit :=
        match program? name with
        | some p =>
          if name = "echo".toList then
            runProgram (fun l => .leaving (.ofText (plainEcho l.arguments)) l.input) arguments
          else runProgram p arguments
        | none =>
          if shells.contains name then
            match Errand.read arguments s.input files with
            | .error _ => Action.setStatus 2
            | .ok errand => do
              set { s with
                name := errand.name.getD s.name, arguments := errand.arguments
                options := errand.options }
              runToEnd runScript errand.script
          else run maxDepth (.simple [] ((name :: arguments).map fun a => [.literal a true]) [])
      let (r, s) := action.runIn s
      .course (Process.ofRun r s).course

end Shell

end TemplateFill
