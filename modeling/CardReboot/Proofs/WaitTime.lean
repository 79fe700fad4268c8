import CardReboot.Proofs.ElapsedTime
import CardReboot.Proofs.WaitRun
import Mathlib.Order.Bounds.Defs

/-!
# How long the waits take

A wait for a state cuts its last pause short, so it never takes longer than its limit.
A status poll pauses for its full interval before it looks at the deadline, so it can
overshoot, up to the first multiple of the interval that is not before the deadline;
but a reboot that it finds over was found before.  A drop window takes one interval
for each sample and none for all the rest.
-/

namespace CardReboot

namespace Wait

variable {I : Interface} [Pausing I] {α : Type}

/-- What follows a read that found nothing acceptable. -/
def afterMiss
    (w : Wait) (read : Dialogue I (Except String α)) (accept : α → Bool) (shown : α → String)
    (issued now : Instant) (deadline : Option Instant) (rounds : Nat)
    (found : Except String α) : Dialogue I (Option (Outcome α) × Instant) :=
  match w.pause? deadline now with
  | none =>
      .done (some (.error (.timeout w.what w.limit (now.since issued) (observed shown found))),
        now)
  | some pause =>
      (Pausing.pause pause).bind fun _ =>
        (w.keepReading read accept shown issued deadline rounds).startingAt (now.after pause)

theorem startingAt_keepReading_succ
    (w : Wait) (read : Dialogue I (Except String α)) (accept : α → Bool) (shown : α → String)
    (issued now : Instant) (deadline : Option Instant) (rounds : Nat) :
    (w.keepReading read accept shown issued deadline (rounds + 1)).startingAt now =
      read.bind fun found =>
        match found.toOption.filter accept with
        | some value => .done (some (.ok value), now)
        | none => w.afterMiss read accept shown issued now deadline rounds found := by
  rw [keepReading, Timed.startingAt_ask_bind]
  congr 1
  funext found
  cases found.toOption.filter accept with
  | some value => rfl
  | none =>
      change (Timed.now >>= _).startingAt now = _
      rw [Timed.startingAt_now_bind, afterMiss]
      cases w.pause? deadline now with
      | none => rfl
      | some pause => exact Timed.startingAt_pause_bind _ _ _

theorem pause?_of_elapsed
    (w : Wait) (start : Instant) (elapsed : Duration) :
    w.pause? (some (start.after w.limit)) (start.after elapsed) =
      if w.limit ≤ elapsed then none
      else some (w.interval.min ⟨w.limit.nanos - elapsed.nanos⟩) := by
  have hdue : (start.after w.limit).nanos ≤ (start.after elapsed).nanos ↔ w.limit ≤ elapsed :=
    Nat.add_le_add_iff_left
  have hleft : (start.after w.limit).since (start.after elapsed) =
      ⟨w.limit.nanos - elapsed.nanos⟩ :=
    congrArg Duration.mk (Nat.add_sub_add_left _ _ _)
  simp only [pause?, hdue, hleft]

/-- What is known about a wait from some time after its start on: it ends within its
limit, and it does the same whenever it was started. -/
def EndsInTime
    (w : Wait) (read : Dialogue I (Except String α)) (accept : α → Bool) (shown : α → String)
    (elapsed : Duration) (rounds : Nat) : Prop :=
  ∃ d : Dialogue I (Outcome α × Duration),
    (d.EndsWith fun r => r.2 ≤ w.limit) ∧
      ∀ start,
        (w.keepReading read accept shown start (some (start.after w.limit)) rounds).startingAt
          (start.after elapsed) = d.beginningAt start

section Loop

variable {w : Wait} {read : Dialogue I (Except String α)} {accept : α → Bool}
  {shown : α → String} {elapsed : Duration}

/-- One more round, when it is known how the wait goes on after a value that is not
acceptable. -/
theorem endsInTime_succ
    {rounds : Nat} (hle : elapsed ≤ w.limit)
    (late : Except String α → Dialogue I (Outcome α × Duration))
    (hlate : ∀ found, (late found).EndsWith fun r => r.2 ≤ w.limit)
    (hstart : ∀ start found,
      w.afterMiss read accept shown start (start.after elapsed) (some (start.after w.limit))
        rounds found = (late found).beginningAt start) :
    w.EndsInTime read accept shown elapsed (rounds + 1) := by
  refine ⟨read.bind fun found =>
    match found.toOption.filter accept with
    | some value => .done (.ok value, elapsed)
    | none => late found, ?_, ?_⟩
  · apply Dialogue.guarantees_bind read.endsWith_any
    intro found _
    cases found.toOption.filter accept with
    | none => exact hlate found
    | some value => exact Dialogue.guarantees_done hle
  · intro start
    rw [startingAt_keepReading_succ, Dialogue.beginningAt_bind]
    congr 1
    funext found
    cases found.toOption.filter accept with
    | none => exact hstart start found
    | some value => rfl

theorem endsInTime_of_due
    (hle : elapsed ≤ w.limit) (hdue : w.limit ≤ elapsed) (rounds : Nat) :
    w.EndsInTime read accept shown elapsed (rounds + 1) := by
  apply endsInTime_succ hle fun found =>
    .done (.error (.timeout w.what w.limit elapsed (observed shown found)), elapsed)
  · exact fun _ => Dialogue.guarantees_done hle
  · intro start found
    rw [afterMiss, pause?_of_elapsed, if_pos hdue, Instant.since_after]
    rfl

theorem endsInTime_of_rest
    {pause : Duration} {rounds : Nat} (hle : elapsed ≤ w.limit) (hearly : ¬ w.limit ≤ elapsed)
    (hpause : pause = w.interval.min ⟨w.limit.nanos - elapsed.nanos⟩)
    (hrest : w.EndsInTime read accept shown (elapsed + pause) rounds) :
    w.EndsInTime read accept shown elapsed (rounds + 1) := by
  obtain ⟨rest, hlimit, hsame⟩ := hrest
  apply endsInTime_succ hle fun _ => (Pausing.pause pause).bind fun _ => rest
  · intro _
    exact Dialogue.guarantees_bind (Dialogue.endsWith_any _) fun _ _ => hlimit
  · intro start found
    rw [afterMiss, pause?_of_elapsed, if_neg hearly, ← hpause, Dialogue.beginningAt_bind]
    simp only [← Instant.after_add, hsame]

/-- A round takes a whole interval unless it ends at the deadline, so so many of them
are enough. -/
theorem endsInTime
    {rounds : Nat} (hle : elapsed ≤ w.limit)
    (hrounds : w.limit.nanos ≤ elapsed.nanos + rounds * w.interval.nanos) :
    w.EndsInTime read accept shown elapsed (rounds + 1) := by
  induction rounds generalizing elapsed with
  | zero =>
      have hdue : w.limit ≤ elapsed := by
        rw [Duration.le_def]
        omega
      exact endsInTime_of_due hle hdue 0
  | succ rounds ih =>
      by_cases hdue : w.limit ≤ elapsed
      · exact endsInTime_of_due hle hdue (rounds + 1)
      · apply endsInTime_of_rest hle hdue rfl
        rw [Duration.le_def] at hle hdue
        apply ih
        · simp only [Duration.le_def, Duration.nanos_add, Duration.min, Nat.min_def]
          split <;> omega
        · simp only [Duration.nanos_add, Duration.min, Nat.min_def]
          rw [Nat.add_mul] at hrounds
          split <;> omega

end Loop

/-- Where its deadline is on the clock, a wait that pauses at all ends within its limit. -/
theorem takes_await
    (w : Wait) (hinterval : 0 < w.interval.nanos) (patience : Nat)
    (read : Dialogue I (Except String α)) (accept : α → Bool) (shown : α → String) :
    (w.await patience read accept shown).Takes (·.HasDeadline w.limit)
      fun _ elapsed => elapsed ≤ w.limit := by
  have hrounds : w.limit.nanos ≤
      Duration.zero.nanos + (w.limit.nanos / w.interval.nanos + 1) * w.interval.nanos := by
    have hdiv := Nat.lt_div_mul_add hinterval (a := w.limit.nanos)
    rw [Duration.nanos_zero, Nat.add_mul]
    omega
  have hneeded : ∀ start : Instant,
      w.rounds patience start (some (start.after w.limit)) =
        w.limit.nanos / w.interval.nanos + 1 + 1 := by
    intro start
    simp [rounds, Nat.ne_of_gt hinterval]
  have hends : w.EndsInTime read accept shown .zero (w.limit.nanos / w.interval.nanos + 1 + 1) :=
    endsInTime (Nat.zero_le w.limit.nanos) hrounds
  obtain ⟨d, hlimit, hsame⟩ := hends
  refine ⟨d, hlimit, ?_⟩
  intro start hdeadline
  rw [await, Timed.startingAt_now_bind, hdeadline.deadline?_eq, ← hsame start, ← hneeded start,
    Instant.after_zero]

end Wait

namespace StatusPoll

/-- The pauses that a poll makes until it finds its deadline. -/
def pauses (limit : Duration) : Nat :=
  max 1 ((limit.nanos + interval.nanos - 1) / interval.nanos)

/-- The longest time that a poll takes. -/
def longest (limit : Duration) : Duration := interval.times (pauses limit)

/-- The longest time is the least positive multiple of the interval that is not before
the limit. -/
theorem isLeast_pauses (limit : Duration) :
    IsLeast {count | 1 ≤ count ∧ limit ≤ interval.times count} (pauses limit) := by
  constructor
  · refine ⟨Nat.le_max_left _ _, ?_⟩
    simp only [Duration.le_def, Duration.times, pauses, interval, Duration.ofSeconds,
      Duration.nanosPerSecond, Nat.max_def]
    split <;> omega
  · rintro count ⟨hpositive, hlimit⟩
    simp only [Duration.le_def, Duration.times, interval, Duration.ofSeconds,
      Duration.nanosPerSecond] at hlimit
    simp only [pauses, interval, Duration.ofSeconds, Duration.nanosPerSecond, Nat.max_def]
    split <;> omega

/-- The times after which a poll can find the reboot over: those of the queries before
its deadline. -/
def CanFindOver (limit elapsed : Duration) : Prop :=
  ∃ query, 1 ≤ query ∧ elapsed = interval.times query ∧ ¬ limit ≤ elapsed

theorem rounds_after (patience : Nat) (start : Instant) (limit : Duration) :
    rounds patience start (some (start.after limit)) =
      limit.nanos / interval.nanos + 1 := by
  simp only [rounds, Instant.since, Instant.after, Nat.add_sub_cancel_left]

theorem pauses_le (limit : Duration) : pauses limit ≤ limit.nanos / interval.nanos + 1 := by
  apply (isLeast_pauses limit).2
  refine ⟨Nat.le_add_left 1 _, ?_⟩
  simp only [Duration.le_def, Duration.times, interval, Duration.ofSeconds,
    Duration.nanosPerSecond]
  omega

section Loop

variable (request : StatusRequest)

/-- What follows an answer to a query. -/
def afterAnswer
    (deadline : Option Instant) (issued now : Instant) (rounds : Nat) (progress : Progress)
    (answer : Answered RebootStatus) : Dialogue bench (Option PollReport × Instant) :=
  if (PollState.polling.next answer).isTerminal then
    .done (some ((progress.record answer).report (PollState.polling.next answer)
      (now.since issued)), now)
  else (keepAsking request deadline issued rounds (progress.record answer)).startingAt now

theorem startingAt_keepAsking_succ
    (deadline : Option Instant) (issued before : Instant) (rounds : Nat)
    (progress : Progress) :
    (keepAsking request deadline issued (rounds + 1) progress).startingAt before =
      (Pausing.pause interval).bind fun _ =>
        if isDue deadline (before.after interval) then
          .done (some (progress.report .timedOut ((before.after interval).since issued)),
            before.after interval)
        else
          (Bench.rebootStatus request).bind
            (afterAnswer request deadline issued (before.after interval) rounds progress) := by
  rw [keepAsking, Timed.startingAt_pause_bind]
  congr 1
  funext _
  rw [Timed.startingAt_now_bind]
  by_cases hdue : isDue deadline (before.after interval) = true
  · rw [if_pos hdue, if_pos hdue]
    rfl
  · rw [if_neg hdue, if_neg hdue, Timed.startingAt_ask_bind]
    congr 1
    funext answer
    by_cases hterminal : (PollState.polling.next answer).isTerminal = true
    · simp only [afterAnswer, if_pos hterminal]
      rfl
    · simp only [afterAnswer, if_neg hterminal]

theorem isDue_of_elapsed (limit elapsed : Duration) (start : Instant) :
    isDue (some (start.after limit)) (start.after elapsed) = decide (limit ≤ elapsed) := by
  have hdue : (start.after limit).nanos ≤ (start.after elapsed).nanos ↔ limit ≤ elapsed :=
    Nat.add_le_add_iff_left
  simp only [isDue, hdue]

/-- What is known about a poll after so many queries: it ends at its last pause at the
latest, and it does the same whenever it was started. -/
def EndsInTime (limit : Duration) (queries rounds : Nat) (progress : Progress) : Prop :=
  ∃ d : Dialogue bench (PollReport × Duration),
    (d.EndsWith fun r =>
      r.2 ≤ longest limit ∧ (r.1.state = .completed → CanFindOver limit r.2)) ∧
    ∀ start,
      (keepAsking request (some (start.after limit)) start rounds progress).startingAt
        (start.after (interval.times queries)) = d.beginningAt start

variable {request} {limit : Duration} {queries rounds : Nat} {progress : Progress}

theorem endsInTime_of_due
    (hearly : queries < pauses limit) (hdue : limit ≤ interval.times (queries + 1)) :
    EndsInTime request limit queries (rounds + 1) progress := by
  refine ⟨(Pausing.pause interval).bind fun _ =>
    .done (progress.report .timedOut (interval.times (queries + 1)),
      interval.times (queries + 1)), ?_, ?_⟩
  · apply Dialogue.guarantees_bind (Dialogue.endsWith_any _)
    intro _ _
    exact Dialogue.guarantees_done ⟨Duration.times_le_times interval hearly, nofun⟩
  · intro start
    rw [startingAt_keepAsking_succ, Dialogue.beginningAt_bind]
    simp only [← Instant.after_times_succ, isDue_of_elapsed, hdue, decide_true, if_true,
      Instant.since_after, Dialogue.beginningAt_done]

theorem endsInTime_of_rest
    (hearly : queries < pauses limit) (hbefore : ¬ limit ≤ interval.times (queries + 1))
    (hrest : ∀ answer, EndsInTime request limit (queries + 1) rounds (progress.record answer)) :
    EndsInTime request limit queries (rounds + 1) progress := by
  choose rest hends hsame using hrest
  refine ⟨(Pausing.pause interval).bind fun _ =>
    (Bench.rebootStatus request).bind fun answer =>
      if (PollState.polling.next answer).isTerminal then
        .done ((progress.record answer).report (PollState.polling.next answer)
          (interval.times (queries + 1)), interval.times (queries + 1))
      else rest answer, ?_, ?_⟩
  · apply Dialogue.guarantees_bind (Dialogue.endsWith_any _)
    intro _ _
    apply Dialogue.guarantees_bind (Dialogue.endsWith_any _)
    intro answer _
    by_cases hterminal : (PollState.polling.next answer).isTerminal = true
    · rw [if_pos hterminal]
      apply Dialogue.guarantees_done
      refine ⟨Duration.times_le_times interval hearly, ?_⟩
      intro _
      exact ⟨queries + 1, by omega, rfl, hbefore⟩
    · rw [if_neg hterminal]
      exact hends answer
  · intro start
    rw [startingAt_keepAsking_succ, Dialogue.beginningAt_bind]
    congr 1
    funext _
    rw [← Instant.after_times_succ, isDue_of_elapsed, if_neg (by simpa using hbefore),
      Dialogue.beginningAt_bind]
    congr 1
    funext answer
    by_cases hterminal : (PollState.polling.next answer).isTerminal = true
    · rw [afterAnswer, if_pos hterminal, if_pos hterminal, Instant.since_after]
      rfl
    · rw [afterAnswer, if_neg hterminal, if_neg hterminal]
      exact hsame answer start

theorem endsInTime
    (hearly : queries < pauses limit) (hrounds : pauses limit ≤ queries + rounds) :
    EndsInTime request limit queries rounds progress := by
  induction rounds generalizing queries progress with
  | zero => omega
  | succ rounds ih =>
      by_cases hdue : limit ≤ interval.times (queries + 1)
      · exact endsInTime_of_due hearly hdue
      · have hlast : limit ≤ interval.times (pauses limit) := (isLeast_pauses limit).1.2
        have hmore : queries + 1 ≠ pauses limit := by
          intro hequal
          rw [← hequal] at hlast
          exact hdue hlast
        apply endsInTime_of_rest hearly hdue
        intro answer
        apply ih <;> omega

end Loop

/-- Where its deadline is on the clock, a poll ends at its last pause at the latest, and
what it finds over was over before the deadline. -/
theorem takes_poll (patience : Nat) (limit : Duration) (request : StatusRequest) :
    (poll patience limit request).Takes (·.HasDeadline limit) fun report elapsed =>
      elapsed ≤ longest limit ∧ (report.state = .completed → CanFindOver limit elapsed) := by
  have hends : EndsInTime request limit 0 (limit.nanos / interval.nanos + 1) .start := by
    apply endsInTime (isLeast_pauses limit).1.1
    rw [Nat.zero_add]
    exact pauses_le limit
  obtain ⟨d, hd, hsame⟩ := hends
  refine ⟨d, hd, ?_⟩
  intro start hdeadline
  rw [poll, Timed.startingAt_now_bind, pollFrom, Timed.startingAt_now_bind,
    hdeadline.deadline?_eq, ← hsame start, ← rounds_after patience start limit,
    Instant.after_times_zero]

end StatusPoll

namespace Recovery

theorem takes_await
    (patience : Nat) {interval : Duration} (hinterval : 0 < interval.nanos) (limit : Duration)
    (pre : Snapshot) (scope : InterfaceScope) :
    (await patience interval limit pre scope).Takes (·.HasDeadline limit)
      fun _ elapsed => elapsed ≤ limit := by
  unfold await
  by_cases hempty : pre.isEmpty = true
  · rw [if_pos hempty]
    exact Timed.takes_pure (Nat.zero_le limit.nanos)
  · rw [if_neg hempty]
    have hwait := Wait.takes_await ⟨"interface recovery", interval, limit⟩ hinterval patience
      (observe pre scope) (fun o => o.missing.isEmpty) Observation.text
    apply hwait.bind_pure (g := Except.map Observation.post)
    intro outcome
    cases outcome <;> rfl

end Recovery

namespace DropWindow

theorem takes_takeSamples
    (interval : Duration) (command : String) (count taken : Nat) (report : DropReport) :
    (takeSamples interval command count taken report).Takes (fun _ => True)
      fun _ elapsed => elapsed ≤ interval.times count := by
  induction count generalizing taken report with
  | zero => exact Timed.takes_pure (Nat.zero_le _)
  | succ count ih =>
      have hone : ∀ elapsed : Duration, elapsed ≤ interval.times count →
          interval + elapsed ≤ interval.times (count + 1) := by
        intro elapsed hle
        simp only [Duration.le_def, Duration.times, Duration.nanos_add, Nat.add_mul] at hle ⊢
        omega
      rw [takeSamples]
      apply Timed.takes_pause_bind
      intro _
      apply Timed.takes_ask_bind
      intro outcome
      cases outcome with
      | error failure => exact Timed.takes_pure (hone .zero (Nat.zero_le _))
      | ok records => exact (ih (taken + 1) _).mono (fun _ _ => trivial) fun _ => hone

/-- A window takes one interval for each sample at most, whatever the clock shows. -/
theorem takes_watch (interval : Duration) (count : Nat) (linecard ingress : String) :
    (watch interval count linecard ingress).Takes (fun _ => True)
      fun _ elapsed => elapsed ≤ interval.times count := by
  have hnone : Duration.zero ≤ interval.times count := Nat.zero_le _
  unfold watch
  apply Timed.takes_ask_bind
  intro counted
  cases counted with
  | error e => exact Timed.takes_pure hnone
  | ok before =>
      apply Timed.takes_ask_bind
      intro started
      cases started with
      | error e => exact Timed.takes_pure hnone
      | ok _ =>
          apply (takes_takeSamples interval _ count 0 _).bind
          intro sampled
          apply Timed.takes_ask_bind
          intro report
          exact Timed.takes_pure fun elapsed hle => hle

end DropWindow

end CardReboot
