import TemplateFill.Resolver.Settings
import TemplateFill.Text.Utf8

/-!
# Waiting for a command

A command that has been started is looked at every 20 milliseconds until it has ended or its time
is up, in which case it is killed.  The output is read by a reader of its own, which is granted the
time that is left.  What is done on the way is kept in order, as a row of deeds.

How the command goes on is not under our control.  A `Course` says what each look at it shows and
what the clock shows then, and what comes of waiting for the output.  All that it has to keep to is
that the clock goes on by at least the sleep that was asked for.  A sleep is never longer than the
time that is left, so the wait comes to an end.
-/

namespace TemplateFill

/-- How a command has ended. -/
inductive Exit where
  | status (n : Int)
  | signal
  deriving DecidableEq, Repr

/-- What a look at a command shows. -/
inductive Sight where
  | running
  | ended (e : Exit)
  /-- The command cannot be looked at. -/
  | lost (reason : Text)
  deriving DecidableEq, Repr

/-- What comes of waiting for the output. -/
inductive Reading where
  | output (bytes : List UInt8)
  | broken (reason : Text)
  /-- Something still holds the output open. -/
  | late
  deriving DecidableEq, Repr

/-- The time between two looks. -/
def Course.interval : Duration := .ofMillis 20

/-- The sleep after a look at a command that is running: it ends when the time is up. -/
def Course.pause (limit elapsed : Duration) : Duration :=
  min interval ⟨limit.nanos - elapsed.nanos⟩

/-- How a command that has been started goes on, for somebody who waits no longer than `limit`. -/
structure Course (limit : Duration) where
  /-- What the `n`-th look shows. -/
  sight : Nat → Sight
  /-- The time since the wait began, as the clock shows it after the `n`-th look. -/
  clock : Nat → Duration
  /-- The clock goes on by at least the sleep that was asked for, and never goes back. -/
  goesOn : ∀ n, (clock n).nanos + (Course.pause limit (clock n)).nanos ≤ (clock (n + 1)).nanos
  /-- The time that has passed when the wait begins. -/
  lead : Duration
  /-- What comes of waiting for the output for a time. -/
  reading : Duration → Reading

/-- The verdict on a command. -/
inductive Verdict where
  /-- It was seen to have ended. -/
  | ended (e : Exit)
  /-- Its time was up, and it has been killed. -/
  | killed
  | lost (reason : Text)
  deriving DecidableEq, Repr

/-- What is done about a command that has been started. -/
inductive Deed where
  | look
  | sleep (length : Duration)
  /-- The command is killed, and all that it has started with it. -/
  | kill
  /-- What the command has started and left behind is killed. -/
  | killRest
  /-- The output is waited for, for so long at most. -/
  | receive (time : Duration)
  deriving DecidableEq, Repr

/-- A wait that is over. -/
structure Wait where
  verdict : Verdict
  deeds : List Deed
  /-- The time that the clock showed after the last look. -/
  elapsed : Duration
  deriving DecidableEq, Repr

/-- An attempt to get options from a command. -/
structure Attempt where
  deeds : List Deed
  outcome : Outcome
  deriving DecidableEq, Repr

namespace Course

variable {limit : Duration} (c : Course limit)

theorem clock_lt {n : Nat} (h : ¬limit.nanos ≤ (c.clock n).nanos) :
    (c.clock n).nanos < (c.clock (n + 1)).nanos := by
  have hnext := c.goesOn n
  have hpause : (pause limit (c.clock n)).nanos =
      min 20000000 (limit.nanos - (c.clock n).nanos) := rfl
  omega

/-- The wait from the `n`-th look on. -/
def waitFrom (n : Nat) : Wait :=
  match c.sight n with
  | .ended e => ⟨.ended e, [.look], c.clock n⟩
  | .lost reason => ⟨.lost reason, [.look], c.clock n⟩
  | .running =>
    if h : limit.nanos ≤ (c.clock n).nanos then ⟨.killed, [.look, .kill], c.clock n⟩
    else
      have := c.clock_lt h
      let rest := waitFrom (n + 1)
      { rest with deeds := .look :: .sleep (pause limit (c.clock n)) :: rest.deeds }
termination_by limit.nanos - (c.clock n).nanos

/-- The wait for a command. -/
def wait : Wait := c.waitFrom 0

/-- The time that is left for reading the output when a wait is over. -/
def remaining (w : Wait) : Duration := ⟨limit.nanos - (c.lead.nanos + w.elapsed.nanos)⟩

/-- The attempt to get options from a command. -/
def attempt : Attempt :=
  let w := c.wait
  match w.verdict with
  | .killed => ⟨w.deeds, .failed (.timedOut limit)⟩
  | .lost reason => ⟨w.deeds ++ [.kill], .failed (.unreadable reason)⟩
  | .ended .signal => ⟨w.deeds, .failed .signal⟩
  | .ended (.status n) =>
    if n ≠ 0 then ⟨w.deeds, .failed (.exit n)⟩
    else
      let time := c.remaining w
      match c.reading time with
      | .output bytes => ⟨w.deeds ++ [.receive time], .ofOutput (Utf8.decodeLossy bytes)⟩
      | .broken reason => ⟨w.deeds ++ [.receive time], .failed (.unreadable reason)⟩
      | .late => ⟨w.deeds ++ [.receive time, .killRest], .failed (.timedOut limit)⟩

end Course

/-- Whether a command was started. -/
inductive Start where
  /-- It goes on in a way that may depend on how long it is waited for. -/
  | course (c : (limit : Duration) → Course limit)
  | refused (reason : Text)

/-- A place where programs can be started: the program and its arguments. -/
abbrev Starter := Text → List Text → Start

namespace ResolverSettings

/-- The reason given for a shell that cannot be started. -/
def refusal (s : ResolverSettings) (reason : Text) : Text :=
  s.shell ++ ' ' :: Text.join [' '] s.arguments ++ ": " ++ reason

/-- The outcome of a command. -/
def resolve (s : ResolverSettings) (start : Starter) (command : Text) : Outcome :=
  match start s.shell (s.arguments ++ [command]) with
  | .refused reason => .failed (.notStarted (s.refusal reason))
  | .course c => (c s.limit).attempt.outcome

/-- The outcomes of commands that run side by side, in the order of the commands. -/
def resolveAll (s : ResolverSettings) (start : Starter) (commands : List Text) : List Outcome :=
  commands.map (s.resolve start)

end ResolverSettings

end TemplateFill
