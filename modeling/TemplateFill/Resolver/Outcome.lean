import TemplateFill.Number.Notation
import TemplateFill.Text.Blank

/-!
# What comes of running a command

A command either yields options, which are the lines of its output without the blanks around them
and without the lines that are blank altogether, or it fails for one of several reasons.
-/

namespace TemplateFill

/-- A length of time in whole nanoseconds. -/
structure Duration where
  nanos : Nat
  deriving DecidableEq, Repr

instance : Min Duration := ⟨fun a b => ⟨min a.nanos b.nanos⟩⟩

namespace Duration

/-- A number of milliseconds. -/
def ofMillis (n : Nat) : Duration := ⟨n * Nat.pow 10 6⟩

/-- A number of seconds. -/
def ofSeconds (n : Nat) : Duration := ⟨n * Nat.pow 10 9⟩

/-- The number of seconds, as the sum of the whole seconds and the rest, each of them rounded. -/
def seconds (d : Duration) : Binary64 :=
  let whole := (Binary64.ofRatio? (d.nanos / Nat.pow 10 9) 1).getD .zero
  let rest := (Binary64.ofRatio? (d.nanos % Nat.pow 10 9) (Nat.pow 10 9)).getD .zero
  (whole.add? rest).getD whole

end Duration

/-- Why a command yields no options. -/
inductive Failure where
  /-- The shell could not be started. -/
  | notStarted (reason : Text)
  /-- The command ended with a status other than zero. -/
  | exit (status : Int)
  /-- The command was ended by a signal. -/
  | signal
  /-- The command took longer than it may. -/
  | timedOut (limit : Duration)
  /-- There was nothing in the output but blanks. -/
  | emptyOutput
  /-- The output could not be read. -/
  | unreadable (reason : Text)
  deriving DecidableEq, Repr

/-- A failure as it is shown. -/
def Failure.message : Failure → Text
  | .notStarted reason => "failed to start command: " ++ reason
  | .exit status => "command exited with status " ++ Text.ofInt status
  | .signal => "command was terminated by a signal"
  | .timedOut limit => "command timed out after " ++ limit.seconds.plain ++ ['s']
  | .emptyOutput => "command produced no output"
  | .unreadable reason => "failed to read command output: " ++ reason

/-- What comes of running a command. -/
inductive Outcome where
  | options (os : List Text)
  | failed (why : Failure)
  deriving DecidableEq, Repr

namespace Outcome

/-- The options in an output, one on each line. -/
def optionsIn (output : Text) : List Text :=
  (output.lines.map Text.trim).filter fun o => !o.isEmpty

/-- The outcome of a command with the given output. -/
def ofOutput (output : Text) : Outcome :=
  let os := optionsIn output
  if os.isEmpty then .failed .emptyOutput else .options os

end Outcome

end TemplateFill
