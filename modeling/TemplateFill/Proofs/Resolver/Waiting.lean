import Mathlib.Algebra.Order.Floor.Div
import TemplateFill.Proofs.Number.Checked
import TemplateFill.Proofs.Resolver.Options
import TemplateFill.Proofs.Text.Utf8
import TemplateFill.Resolver.Waiting

/-!
# The wait for a command fits in its time

A wait has a last look (`Course.IsLast`), because the clock has gone on by 20 milliseconds for each
look before it.  What the wait comes to is read off that look: the verdict, and the deeds, which are
a look and a sleep for each look before the last one (`Course.wait_eq`).  Everything else follows
from this form and from two facts about the sleeps: the clock goes on by at least as much
(`Course.slept_le_clock`), and none of them goes beyond the time that is left
(`Course.IsLast.slept_le`).

* `ResolverSettings.resolve_within_limit`: how often a command is looked at, how much time is
  granted to it, and when it yields options or is killed.
-/

namespace TemplateFill

namespace Deed

/-- The time for which a deed may last. -/
def granted : Deed → Nat
  | .sleep d | .receive d => d.nanos
  | .look | .kill | .killRest => 0

/-- The time for which deeds may last, one after the other. -/
def total (deeds : List Deed) : Nat := (deeds.map granted).sum

lemma total_append (ds es : List Deed) : total (ds ++ es) = total ds + total es := by
  rw [total, List.map_append, List.sum_append, total, total]

end Deed

namespace Sight

/-- The verdict on a command after the last look at it. -/
def verdict : Sight → Verdict
  | .running => .killed
  | .ended e => .ended e
  | .lost reason => .lost reason

lemma verdict_eq_ended_iff {s : Sight} {e : Exit} :
    s.verdict = .ended e ↔ s = .ended e := by
  cases s <;> simp [verdict]

/-- What is done when a wait comes to its last look. -/
def lastDeeds : Sight → List Deed
  | .running => [.look, .kill]
  | .ended _ | .lost _ => [.look]

lemma count_lastDeeds (s : Sight) : s.lastDeeds.count .look = 1 := by
  cases s <;> rfl

lemma total_lastDeeds (s : Sight) : Deed.total s.lastDeeds = 0 := by
  cases s <;> rfl

end Sight

namespace Course

variable {limit : Duration} {c : Course limit} {n k : Nat}

/-! ### The last look -/

/-- A look shows the command running, and its time is not up: the wait goes on. -/
def Runs (c : Course limit) (n : Nat) : Prop :=
  c.sight n = .running ∧ (c.clock n).nanos < limit.nanos

/-- A look is the last one. -/
structure IsLast (c : Course limit) (n : Nat) : Prop where
  before : ∀ k < n, c.Runs k
  stops : ¬c.Runs n

lemma goesOn_nanos (c : Course limit) (n : Nat) :
    (c.clock n).nanos + min interval.nanos (limit.nanos - (c.clock n).nanos) ≤
      (c.clock (n + 1)).nanos :=
  c.goesOn n

/-- While the wait goes on, every sleep has its full length. -/
lemma interval_mul_le_clock (h : ∀ k ≤ n, c.Runs k) : interval.nanos * n ≤ (c.clock n).nanos := by
  induction n with
  | zero => exact Nat.zero_le _
  | succ n ih =>
    have hbefore := ih fun k hk => h k (Nat.le_succ_of_le hk)
    have hnext := c.goesOn_nanos n
    -- a sleep that is cut short goes up to the limit, and the wait does not go on behind it
    have htime : (c.clock (n + 1)).nanos < limit.nanos := (h (n + 1) le_rfl).2
    rw [Nat.mul_succ]
    omega

lemma lt_ceilDiv (h : ∀ k ≤ n, c.Runs k) : n < limit.nanos ⌈/⌉ interval.nanos := by
  have hclock := interval_mul_le_clock h
  have htime : (c.clock n).nanos < limit.nanos := (h n le_rfl).2
  rw [← not_le, ceilDiv_le_iff_le_mul (by decide)]
  omega

lemma exists_last (c : Course limit) : ∃ n, c.IsLast n := by
  classical
  have hstops : ∃ n, ¬c.Runs n := by
    by_contra! hruns
    exact absurd (lt_ceilDiv fun k _ => hruns k) (lt_irrefl (limit.nanos ⌈/⌉ interval.nanos))
  exact ⟨Nat.find hstops, fun k hk => not_not.1 (Nat.find_min hstops hk), Nat.find_spec hstops⟩

namespace IsLast

lemma le_of_not_runs (h : c.IsLast n) (hk : ¬c.Runs k) : n ≤ k :=
  not_lt.1 fun hlt => hk (h.before k hlt)

lemma le_ceilDiv (h : c.IsLast n) : n ≤ limit.nanos ⌈/⌉ interval.nanos := by
  cases n with
  | zero => exact Nat.zero_le _
  | succ n => exact lt_ceilDiv fun k hk => h.before k (Nat.lt_succ_of_le hk)

end IsLast

/-! ### What a wait comes to -/

/-- What is done at a look behind which the wait goes on. -/
def round (c : Course limit) (k : Nat) : List Deed := [.look, .sleep (pause limit (c.clock k))]

/-- What is done before the `n`-th look. -/
def rounds (c : Course limit) (n : Nat) : List Deed := (List.range n).flatMap c.round

lemma waitFrom_of_runs (h : c.Runs n) :
    c.waitFrom n =
      { c.waitFrom (n + 1) with deeds := c.round n ++ (c.waitFrom (n + 1)).deeds } := by
  obtain ⟨hsight, htime⟩ := h
  conv_lhs => rw [waitFrom]
  rw [hsight]
  exact dif_neg (not_le.2 htime)

lemma waitFrom_of_stops (h : ¬c.Runs n) :
    c.waitFrom n = ⟨(c.sight n).verdict, (c.sight n).lastDeeds, c.clock n⟩ := by
  rw [waitFrom]
  cases hsight : c.sight n with
  | ended e => rfl
  | lost reason => rfl
  | running => exact dif_pos (not_lt.1 fun htime => h ⟨hsight, htime⟩)

/-- The wait from a look on, if it goes on behind the next `d` looks and no more. -/
lemma waitFrom_eq {d : Nat} (hruns : ∀ k, n ≤ k → k < n + d → c.Runs k) (hstops : ¬c.Runs (n + d)) :
    c.waitFrom n = ⟨(c.sight (n + d)).verdict,
      (List.range' n d).flatMap c.round ++ (c.sight (n + d)).lastDeeds, c.clock (n + d)⟩ := by
  induction d generalizing n with
  | zero => exact waitFrom_of_stops hstops
  | succ d ih =>
    have hnext : n + (d + 1) = n + 1 + d := by omega
    rw [hnext] at hruns hstops ⊢
    have hrest := ih (fun k hk hlt => hruns k (by omega) hlt) hstops
    rw [waitFrom_of_runs (hruns n le_rfl (by omega)), hrest, List.range'_succ, List.flatMap_cons,
      List.append_assoc]

/-- A wait is what its last look makes of it. -/
theorem wait_eq (h : c.IsLast n) :
    c.wait = ⟨(c.sight n).verdict, c.rounds n ++ (c.sight n).lastDeeds, c.clock n⟩ := by
  have hwait : c.waitFrom 0 = _ :=
    waitFrom_eq (d := n) (fun k _ hk => h.before k (by omega)) (by rw [Nat.zero_add]; exact h.stops)
  rw [wait, hwait, Nat.zero_add, rounds, List.range_eq_range']

/-! ### The time that is granted -/

lemma rounds_succ (c : Course limit) (n : Nat) : c.rounds (n + 1) = c.rounds n ++ c.round n := by
  rw [rounds, List.range_succ, List.flatMap_append, List.flatMap_singleton, rounds]

lemma count_rounds (c : Course limit) (n : Nat) : (c.rounds n).count .look = n := by
  induction n with
  | zero => rfl
  | succ n ih =>
    rw [rounds_succ, List.count_append, ih]
    rfl

/-- The time for which somebody has slept before the `n`-th look. -/
def slept (c : Course limit) (n : Nat) : Nat := Deed.total (c.rounds n)

lemma slept_succ (c : Course limit) (n : Nat) :
    c.slept (n + 1) = c.slept n + min interval.nanos (limit.nanos - (c.clock n).nanos) := by
  have hround : Deed.total (c.round n) = (pause limit (c.clock n)).nanos := by
    simp [Deed.total, round, Deed.granted]
  rw [slept, rounds_succ, Deed.total_append, hround]
  rfl

/-- The clock goes on by at least the sleeps. -/
lemma slept_le_clock (c : Course limit) (n : Nat) : c.slept n ≤ (c.clock n).nanos := by
  induction n with
  | zero => exact Nat.zero_le _
  | succ n ih =>
    have hnext := c.goesOn_nanos n
    rw [slept_succ]
    omega

/-- The sleeps fit in the limit, as the last of them is cut short where it has to be. -/
lemma IsLast.slept_le (h : c.IsLast n) : c.slept n ≤ limit.nanos := by
  cases n with
  | zero => exact Nat.zero_le _
  | succ n =>
    have htime : (c.clock n).nanos < limit.nanos := (h.before n (Nat.lt_succ_self n)).2
    have hslept := c.slept_le_clock n
    rw [slept_succ]
    omega

lemma count_wait (h : c.IsLast n) : c.wait.deeds.count .look = n + 1 := by
  rw [wait_eq h, List.count_append, count_rounds, Sight.count_lastDeeds]

lemma total_wait (h : c.IsLast n) : Deed.total c.wait.deeds = c.slept n := by
  rw [wait_eq h, Deed.total_append, Sight.total_lastDeeds, Nat.add_zero, slept]

/-! ### The attempt -/

lemma verdict_wait (h : c.IsLast n) : c.wait.verdict = (c.sight n).verdict := by
  rw [wait_eq h]

/-- The time that is left for reading when the `n`-th look is the last one. -/
lemma remaining_wait (h : c.IsLast n) :
    c.remaining c.wait = ⟨limit.nanos - (c.lead.nanos + (c.clock n).nanos)⟩ := by
  rw [remaining, wait_eq h]

/-- A command that has been killed was given its time. -/
lemma attempt_of_killed (h : c.wait.verdict = .killed) :
    c.attempt = ⟨c.wait.deeds, .failed (.timedOut limit)⟩ := by
  simp only [attempt, h]

/-- A command that has not ended with success gives no options, and its output is not waited for. -/
lemma attempt_of_ne (h : c.wait.verdict ≠ .ended (.status 0)) :
    ∃ ds why, c.attempt = ⟨c.wait.deeds ++ ds, .failed why⟩ ∧ (ds = [] ∨ ds = [.kill]) := by
  cases hverdict : c.wait.verdict with
  | killed => exact ⟨[], _, by rw [attempt_of_killed hverdict, List.append_nil], Or.inl rfl⟩
  | lost reason => exact ⟨[.kill], .unreadable reason, by simp only [attempt, hverdict], Or.inr rfl⟩
  | ended e =>
    cases e with
    | signal => exact ⟨[], .signal, by simp only [attempt, hverdict, List.append_nil], Or.inl rfl⟩
    | status m =>
      have hm : m ≠ 0 := fun hzero => h (by rw [hverdict, hzero])
      exact ⟨[], .exit m, by simp only [attempt, hverdict, List.append_nil, if_pos hm], Or.inl rfl⟩

/-- The output of a command that has ended with success is waited for. -/
lemma attempt_of_success (h : c.wait.verdict = .ended (.status 0)) :
    (∃ ds, c.attempt.deeds = c.wait.deeds ++ .receive (c.remaining c.wait) :: ds ∧
        (ds = [] ∨ ds = [.killRest])) ∧
      ∀ os, c.attempt.outcome = .options os ↔ ∃ bytes,
        c.reading (c.remaining c.wait) = .output bytes ∧
          Outcome.ofOutput (Utf8.decodeLossy bytes) = .options os := by
  cases hreading : c.reading (c.remaining c.wait) with
  | output bytes => simp [attempt, h, hreading]
  | broken reason => simp [attempt, h, hreading]
  | late => simp [attempt, h, hreading]

/-- What is done besides the wait: there is no further look, and no more time is granted than is
left. -/
lemma attempt_deeds (c : Course limit) :
    ∃ ds, c.attempt.deeds = c.wait.deeds ++ ds ∧ ds.count .look = 0 ∧
      Deed.total ds ≤ (c.remaining c.wait).nanos := by
  by_cases h : c.wait.verdict = .ended (.status 0)
  · obtain ⟨⟨ds, hdeeds, rfl | rfl⟩, -⟩ := attempt_of_success h
    · exact ⟨_, hdeeds, rfl, le_rfl⟩
    · exact ⟨_, hdeeds, rfl, le_rfl⟩
  · obtain ⟨ds, why, hattempt, rfl | rfl⟩ := attempt_of_ne h
    · exact ⟨_, by rw [hattempt], rfl, Nat.zero_le _⟩
    · exact ⟨_, by rw [hattempt], rfl, Nat.zero_le _⟩

/-- There is one look more than there can be full sleeps. -/
lemma count_attempt_le (c : Course limit) :
    c.attempt.deeds.count .look ≤ limit.nanos ⌈/⌉ interval.nanos + 1 := by
  obtain ⟨n, hlast⟩ := c.exists_last
  obtain ⟨ds, hdeeds, hlooks, -⟩ := c.attempt_deeds
  rw [hdeeds, List.count_append, hlooks, count_wait hlast, Nat.add_zero]
  exact Nat.succ_le_succ hlast.le_ceilDiv

/-- All that is granted, for sleeps and for reading, fits in the limit. -/
lemma total_attempt_le (c : Course limit) : Deed.total c.attempt.deeds ≤ limit.nanos := by
  obtain ⟨n, hlast⟩ := c.exists_last
  obtain ⟨ds, hdeeds, -, htotal⟩ := c.attempt_deeds
  have hslept := hlast.slept_le
  have hclock := c.slept_le_clock n
  rw [remaining_wait hlast] at htotal
  rw [hdeeds, Deed.total_append, total_wait hlast]
  -- what is read after the limit gets no time; before it, the sleeps are behind us
  have hleft : Deed.total ds ≤ limit.nanos - (c.lead.nanos + (c.clock n).nanos) := htotal
  omega

/-- A command yields options: it is seen to have ended with success, its output is waited for as
long as there is time left, and is read in that time, and the options are those in it. -/
def Yields (c : Course limit) (os : List Text) : Prop :=
  ∃ n left bytes, (∀ k < n, c.Runs k) ∧ c.sight n = .ended (.status 0) ∧
    left = ⟨limit.nanos - (c.lead.nanos + (c.clock n).nanos)⟩ ∧ .receive left ∈ c.attempt.deeds ∧
    c.reading left = .output bytes ∧
    os ≠ [] ∧ Outcome.ofOutput (Utf8.decodeLossy bytes) = .options os

lemma isLast_of_ended {e : Exit} (hruns : ∀ k < n, c.Runs k) (hsight : c.sight n = .ended e) :
    c.IsLast n where
  before := hruns
  stops h := by
    have hrunning := hsight.symm.trans h.1
    exact absurd hrunning (by simp)

lemma attempt_options_iff {os : List Text} : c.attempt.outcome = .options os ↔ c.Yields os := by
  constructor
  · intro hos
    obtain ⟨n, hlast⟩ := c.exists_last
    by_cases hverdict : c.wait.verdict = .ended (.status 0)
    · have hsight : c.sight n = .ended (.status 0) :=
        Sight.verdict_eq_ended_iff.1 (verdict_wait hlast ▸ hverdict)
      obtain ⟨⟨ds, hdeeds, -⟩, hoptions⟩ := attempt_of_success hverdict
      obtain ⟨bytes, hreading, houtput⟩ := (hoptions os).1 hos
      have hreceive : .receive (c.remaining c.wait) ∈ c.attempt.deeds := by
        rw [hdeeds]
        exact List.mem_append_right _ List.mem_cons_self
      exact ⟨n, c.remaining c.wait, bytes, hlast.before, hsight, remaining_wait hlast, hreceive,
        hreading, (Outcome.ofOutput_eq_options_iff.1 houtput).1, houtput⟩
    · obtain ⟨ds, why, hattempt, -⟩ := attempt_of_ne hverdict
      rw [hattempt] at hos
      exact absurd hos (by simp)
  · rintro ⟨n, left, bytes, hruns, hsight, hleft, -, hreading, -, houtput⟩
    have hlast := isLast_of_ended hruns hsight
    have hverdict : c.wait.verdict = .ended (.status 0) := by
      rw [verdict_wait hlast, Sight.verdict_eq_ended_iff, hsight]
    rw [hleft, ← remaining_wait hlast] at hreading
    exact ((attempt_of_success hverdict).2 os).2 ⟨bytes, hreading, houtput⟩

/-- A command that still runs when its time is up is killed. -/
lemma attempt_of_late (hruns : ∀ k ≤ n, c.sight k = .running)
    (hlate : limit.nanos ≤ (c.clock n).nanos) :
    c.attempt.outcome = .failed (.timedOut limit) ∧ ∃ ds, c.attempt.deeds = ds ++ [.kill] := by
  obtain ⟨m, hlast⟩ := c.exists_last
  have hm : m ≤ n := hlast.le_of_not_runs fun h => not_le.2 h.2 hlate
  have hwait := wait_eq hlast
  rw [hruns m hm] at hwait
  rw [attempt_of_killed (by rw [hwait]; rfl)]
  refine ⟨rfl, c.rounds m ++ [.look], ?_⟩
  rw [hwait, List.append_assoc]
  rfl

/-! ### No difference is negative -/

/-- The sleep after a look, if the time that has passed can be taken from the limit. -/
def pauseChecked (limit elapsed : Duration) : Option Duration :=
  (differenceChecked limit.nanos elapsed.nanos).map fun left => min interval ⟨left⟩

/-- The wait from a look on, if each difference that it takes is one. -/
def waitFromChecked (c : Course limit) (n : Nat) : Option Wait :=
  match c.sight n with
  | .ended e => some ⟨.ended e, [.look], c.clock n⟩
  | .lost reason => some ⟨.lost reason, [.look], c.clock n⟩
  | .running =>
    if h : limit.nanos ≤ (c.clock n).nanos then some ⟨.killed, [.look, .kill], c.clock n⟩
    else
      have := c.clock_lt h
      (pauseChecked limit (c.clock n)).bind fun length =>
        (waitFromChecked c (n + 1)).map fun rest =>
          { rest with deeds := .look :: .sleep length :: rest.deeds }
termination_by limit.nanos - (c.clock n).nanos

/-- The wait for a command, if each difference that it takes is one. -/
def waitChecked (c : Course limit) : Option Wait := c.waitFromChecked 0

lemma pauseChecked_eq {elapsed : Duration} (h : elapsed.nanos ≤ limit.nanos) :
    pauseChecked limit elapsed = some (pause limit elapsed) := by
  rw [pauseChecked, differenceChecked_eq h]
  rfl

lemma waitFromChecked_eq (c : Course limit) (n : Nat) :
    c.waitFromChecked n = some (c.waitFrom n) := by
  induction n using waitFrom.induct c with
  | case1 n e hsight => rw [waitFromChecked, hsight, waitFrom, hsight]
  | case2 n reason hsight => rw [waitFromChecked, hsight, waitFrom, hsight]
  | case3 n hsight hlate =>
    rw [waitFromChecked, hsight, waitFrom, hsight]
    simp only [dif_pos hlate]
  | case4 n hsight htime _ ih =>
    -- the difference is taken only where the time is not up
    have hpause := pauseChecked_eq (Nat.le_of_not_le htime)
    rw [waitFromChecked, hsight, waitFrom, hsight]
    simp only [dif_neg htime, hpause, ih, Option.bind_some, Option.map_some]

/-! ### A clock that goes on evenly -/

/-- A command that is looked at again and again after the same time, which is at least the sleep. -/
def steady (step : Duration) (h : interval.nanos ≤ step.nanos) (sight : Nat → Sight)
    (output : List UInt8) (limit : Duration) : Course limit where
  sight := sight
  clock n := ⟨step.nanos * n⟩
  goesOn n := by
    have hpause : (pause limit ⟨step.nanos * n⟩).nanos ≤ interval.nanos :=
      Nat.min_le_left _ _
    show step.nanos * n + _ ≤ step.nanos * (n + 1)
    rw [Nat.mul_succ]
    omega
  lead := .ofMillis 1
  reading _ := .output output

end Course

namespace ResolverSettings

lemma resolve_of_course {s : ResolverSettings} {start : Starter} {command : Text}
    {course : (limit : Duration) → Course limit}
    (h : start s.shell (s.arguments ++ [command]) = .course course) :
    s.resolve start command = (course s.limit).attempt.outcome := by
  rw [resolve, h]

/-- A command is waited for no longer than its limit, which is five seconds at most.

However the command goes on, and whatever the clock shows, there is at most one look more than there
are sleeps of 20 milliseconds in the limit, the last of which may be shorter; no difference that is
taken on the way is negative; and all that is granted, for the sleeps between the looks and for the
output, is no more than the limit.

A command comes to options if and only if it is started and yields them.  If it still runs when its
time is up, it comes to a failure, after it has been killed. -/
theorem resolve_within_limit (s : ResolverSettings) :
    s.limit = min s.timeout (.ofSeconds 5) ∧
      (∀ c : Course s.limit,
        c.attempt.deeds.count .look ≤ s.limit.nanos ⌈/⌉ (Duration.ofMillis 20).nanos + 1 ∧
          c.waitChecked = some c.wait ∧ Deed.total c.attempt.deeds ≤ s.limit.nanos) ∧
      ∀ (start : Starter) (command : Text),
        (∀ os, s.resolve start command = .options os ↔
          ∃ course, start s.shell (s.arguments ++ [command]) = .course course ∧
            (course s.limit).Yields os) ∧
        ∀ course n, start s.shell (s.arguments ++ [command]) = .course course →
          (∀ k ≤ n, (course s.limit).sight k = .running) →
            s.limit.nanos ≤ ((course s.limit).clock n).nanos →
              s.resolve start command = .failed (.timedOut s.limit) ∧
                ∃ ds, (course s.limit).attempt.deeds = ds ++ [.kill] := by
  refine ⟨rfl, ?_, ?_⟩
  · intro c
    exact ⟨c.count_attempt_le, c.waitFromChecked_eq 0, c.total_attempt_le⟩
  intro start command
  constructor
  · intro os
    constructor
    · intro hos
      cases hstart : start s.shell (s.arguments ++ [command]) with
      | refused reason =>
        rw [resolve, hstart] at hos
        exact absurd hos (by simp)
      | course course =>
        rw [resolve_of_course hstart] at hos
        exact ⟨course, rfl, Course.attempt_options_iff.1 hos⟩
    · rintro ⟨course, hstart, hyields⟩
      rw [resolve_of_course hstart]
      exact Course.attempt_options_iff.2 hyields
  · intro course n hstart hruns hlate
    rw [resolve_of_course hstart]
    exact Course.attempt_of_late hruns hlate

/-- With settings that allow a minute, two commands that are looked at every 30 milliseconds: one
that is seen to have ended at the third look and yields two options, and one that is killed after
five seconds. -/
theorem resolve_within_limit_steady :
    let s : ResolverSettings := ⟨.ofSeconds 60, standardShell, standardArguments⟩
    let listing := Course.steady (.ofMillis 30) (by decide)
      (fun n => if n < 2 then .running else .ended (.status 0)) (Utf8.encode "one\ntwo\n")
    let stuck := Course.steady (.ofMillis 30) (by decide) (fun _ => .running) []
    s.limit = .ofSeconds 5 ∧
      s.resolve (fun _ _ => .course listing) "ls" = .options ["one", "two"] ∧
      (listing s.limit).Yields ["one", "two"] ∧
      (∀ k ≤ 167, (stuck s.limit).sight k = .running) ∧
      s.limit.nanos ≤ ((stuck s.limit).clock 167).nanos ∧
      s.resolve (fun _ _ => .course stuck) "ls" = .failed (.timedOut s.limit) ∧
      ∃ ds, (stuck s.limit).attempt.deeds = ds ++ [.kill] := by
  intro s listing stuck
  obtain ⟨hlimit, -, hresolve⟩ := resolve_within_limit s
  have hsight : (listing s.limit).sight 2 = .ended (.status 0) := rfl
  have hlast : (listing s.limit).IsLast 2 := by
    refine Course.isLast_of_ended (fun k hk => ⟨if_pos hk, ?_⟩) hsight
    show 30000000 * k < 5000000000
    omega
  have hverdict : (listing s.limit).wait.verdict = .ended (.status 0) := by
    rw [Course.verdict_wait hlast, hsight]
    rfl
  have houtput : Outcome.ofOutput (Utf8.decodeLossy (Utf8.encode "one\ntwo\n")) =
      .options ["one", "two"] := by
    rw [Utf8.decodeLossy_encode]
    exact Outcome.ofOutput_eq_options_iff.2 ⟨by simp, by rw [Outcome.optionsIn_eq_pieces]; decide⟩
  have hyields : (listing s.limit).Yields ["one", "two"] :=
    Course.attempt_options_iff.1 (((Course.attempt_of_success hverdict).2 _).2 ⟨_, rfl, houtput⟩)
  have hruns : ∀ k ≤ 167, (stuck s.limit).sight k = .running := fun _ _ => rfl
  have hlate : s.limit.nanos ≤ ((stuck s.limit).clock 167).nanos := by decide
  obtain ⟨hoptions, -⟩ := hresolve (fun _ _ => .course listing) "ls"
  obtain ⟨-, htimedOut⟩ := hresolve (fun _ _ => .course stuck) "ls"
  exact ⟨hlimit.trans (by decide), (hoptions _).2 ⟨listing, rfl, hyields⟩, hyields, hruns,
    hlate, htimedOut stuck 167 rfl hruns hlate⟩

/-- The bounds are reached: with a limit of 30 milliseconds and a clock that is never late, there
are three looks, and the sleeps between them take all the time. -/
example : let c := Course.steady (.ofMillis 20) le_rfl (fun _ => .running) [] (.ofMillis 30)
    c.attempt.deeds = [.look, .sleep (.ofMillis 20), .look, .sleep (.ofMillis 10), .look, .kill] := by
  intro c
  have hlast : c.IsLast 2 := by
    refine ⟨fun k hk => ⟨rfl, ?_⟩, fun h => absurd h.2 (by decide)⟩
    show 20000000 * k < 30000000
    omega
  have hverdict : c.wait.verdict = .killed := Course.verdict_wait hlast
  rw [Course.attempt_of_killed hverdict, Course.wait_eq hlast]
  decide

end ResolverSettings

end TemplateFill
