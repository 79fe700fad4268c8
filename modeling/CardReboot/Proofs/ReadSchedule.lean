import CardReboot.Proofs.WaitTime
import CardReboot.Rehearsal.Reading
import Mathlib.Algebra.Order.Floor.Div

/-!
# When a wait reads

A wait reads at the multiples of its interval, and for the last time at the deadline;
where the deadline is off the clock the multiples go on without end.  So against any
source the reads of a wait are settled before it begins, and what the wait comes to is
settled by the first of them that is accepted.  A read that fails is one that is not
accepted, and the read at the deadline counts like every other.
-/

namespace CardReboot

@[simp] theorem Duration.nanos_min (d e : Duration) :
    (d.min e).nanos = Min.min d.nanos e.nanos := rfl

theorem Instant.deadline?_eq_none {start : Instant} {d : Duration} (h : ¬ start.HasDeadline d) :
    start.deadline? d = none :=
  if_neg h

theorem Instant.hasDeadline_of_ne_none
    {start : Instant} {d : Duration} (h : start.deadline? d ≠ none) : start.HasDeadline d := by
  by_contra hoff
  exact h (deadline?_eq_none hoff)

namespace Wait

/-! ## The offsets of the reads -/

/-- How long after the start the read with this number is made, counted from zero. -/
def offset (w : Wait) (deadline : Option Instant) (number : Nat) : Duration :=
  match deadline with
  | some _ => (w.interval.times number).min w.limit
  | none => w.interval.times number

/-- The number of the read at the deadline. -/
def lastRead (w : Wait) : Nat := w.limit.nanos ⌈/⌉ w.interval.nanos

/-- How many reads are made when none is accepted. -/
def reads (w : Wait) (patience : Nat) : Option Instant → Nat
  | some _ => w.lastRead + 1
  | none => patience

/-- The pause after the read with this number. -/
def gap (w : Wait) (deadline : Option Instant) (number : Nat) : Duration :=
  ⟨(w.offset deadline (number + 1)).nanos - (w.offset deadline number).nanos⟩

section Offset

variable (w : Wait)

@[simp] theorem nanos_offset_some (deadline : Instant) (number : Nat) :
    (w.offset (some deadline) number).nanos = min (number * w.interval.nanos) w.limit.nanos :=
  rfl

@[simp] theorem nanos_offset_none (number : Nat) :
    (w.offset none number).nanos = number * w.interval.nanos := rfl

theorem offset_zero (deadline : Option Instant) : w.offset deadline 0 = .zero := by
  cases deadline <;> simp [offset, Duration.times, Duration.min, Duration.zero]

theorem offset_le_offset (deadline : Option Instant) {earlier later : Nat} (hle : earlier ≤ later) :
    w.offset deadline earlier ≤ w.offset deadline later := by
  have hmul := Nat.mul_le_mul_right w.interval.nanos hle
  cases deadline <;> simp only [Duration.le_def, nanos_offset_some, nanos_offset_none] <;> omega

theorem after_gap (deadline : Option Instant) (start : Instant) (number : Nat) :
    (start.after (w.offset deadline number)).after (w.gap deadline number) =
      start.after (w.offset deadline (number + 1)) := by
  have hle := w.offset_le_offset deadline (Nat.le_add_right number 1)
  rw [Duration.le_def] at hle
  simp only [Instant.after, gap, Instant.mk.injEq]
  omega

variable (hinterval : 0 < w.interval.nanos)
include hinterval

theorem lastRead_le_iff {number : Nat} :
    w.lastRead ≤ number ↔ w.limit.nanos ≤ number * w.interval.nanos := by
  rw [lastRead, ceilDiv_le_iff_le_mul hinterval, Nat.mul_comm]

theorem offset_lastRead (deadline : Instant) :
    w.offset (some deadline) w.lastRead = w.limit := by
  have hle := (w.lastRead_le_iff hinterval).mp (Nat.le_refl w.lastRead)
  exact congrArg Duration.mk (Nat.min_eq_right hle)

/-- Before the last read a wait pauses until the next one. -/
theorem pause?_of_early (start : Instant) {number : Nat} (hearly : number < w.lastRead) :
    w.pause? (some (start.after w.limit))
        (start.after (w.offset (some (start.after w.limit)) number)) =
      some (w.gap (some (start.after w.limit)) number) := by
  have hbefore : ¬ w.limit.nanos ≤ number * w.interval.nanos := by
    rw [← w.lastRead_le_iff hinterval]
    omega
  have hleft : ¬ w.limit ≤ w.offset (some (start.after w.limit)) number := by
    rw [Duration.le_def, nanos_offset_some]
    omega
  have hpause :
      (w.interval.min ⟨w.limit.nanos -
        (w.offset (some (start.after w.limit)) number).nanos⟩).nanos =
        (w.gap (some (start.after w.limit)) number).nanos := by
    simp only [Duration.nanos_min, gap, nanos_offset_some, Nat.succ_mul]
    omega
  rw [pause?_of_elapsed, if_neg hleft]
  exact congrArg (fun nanos => some (Duration.mk nanos)) hpause

end Offset

theorem pause?_none (w : Wait) (now : Instant) (number : Nat) :
    w.pause? none now = some (w.gap none number) := by
  simp [pause?, gap, Nat.succ_mul]

theorem pause?_limit (w : Wait) (start : Instant) :
    w.pause? (some (start.after w.limit)) (start.after w.limit) = none := by
  rw [pause?_of_elapsed]
  exact if_pos (Nat.le_refl w.limit.nanos)

/-! ## The reads against a source -/

/-- A read that found an acceptable value. -/
def IsAccepted {α : Type} (accept : α → Bool) (found : Except String α) : Prop :=
  ∃ value, found = .ok value ∧ accept value = true

theorem filter_eq_some_iff
    {α : Type} {accept : α → Bool} {found : Except String α} {value : α} :
    found.toOption.filter accept = some value ↔ found = .ok value ∧ accept value = true := by
  rw [Option.filter_eq_some_iff]
  cases found <;> simp [Except.toOption]

theorem filter_eq_none_iff
    {α : Type} {accept : α → Bool} {found : Except String α} :
    found.toOption.filter accept = none ↔ ¬ IsAccepted accept found := by
  cases found <;> simp [Except.toOption, IsAccepted]

section Source

variable {I : Interface} [Pausing I] {β σ : Type} (w : Wait) (source : Responder I σ)
  (read : Dialogue I β) (deadline : Option Instant) (state : σ)

/-- The state of the source before the read with this number. -/
def settled : Nat → σ
  | 0 => state
  | number + 1 =>
      ((Pausing.pause (w.gap deadline number)).run source
        (read.run source (settled number)).2).2

/-- What the read with this number finds. -/
def found (number : Nat) : β :=
  (read.run source (w.settled source read deadline state number)).1

/-- The state in which the read with this number leaves the source. -/
def left (number : Nat) : σ :=
  (read.run source (w.settled source read deadline state number)).2

/-- What is asked in the read with this number. -/
def readExchanges (number : Nat) : Transcript I :=
  read.transcript source (w.settled source read deadline state number)

/-- What is asked before the read with this number: the reads before it, and after each
of them a pause until the next is due. -/
def exchangesBefore : Nat → Transcript I
  | 0 => []
  | number + 1 =>
      exchangesBefore number ++ w.readExchanges source read deadline state number ++
        (Pausing.pause (w.gap deadline number)).transcript source
          (w.left source read deadline state number)

variable {γ : Type} {source read state} {other : Dialogue I γ}
  (hstate : ∀ s, (read.run source s).2 = (other.run source s).2)
include hstate

/-- What a read makes of its answers has no part in the course of a wait. -/
theorem settled_eq_of_run (number : Nat) :
    w.settled source read deadline state number =
      w.settled source other deadline state number := by
  induction number with
  | zero => rfl
  | succ number ih => rw [settled, settled, hstate, ih]

theorem exchangesBefore_eq_of_run
    (hasked : ∀ s, read.transcript source s = other.transcript source s) (number : Nat) :
    w.exchangesBefore source read deadline state number =
      w.exchangesBefore source other deadline state number := by
  induction number with
  | zero => rfl
  | succ number ih =>
      rw [exchangesBefore, exchangesBefore, ih, readExchanges, readExchanges, left, left, hasked,
        hstate, w.settled_eq_of_run deadline hstate]

end Source

section Round

variable {I : Interface} [Pausing I] {α σ : Type} (w : Wait) {source : Responder I σ}
  {read : Dialogue I (Except String α)} {accept : α → Bool} (shown : α → String)
  (issued now : Instant) (deadline : Option Instant) (rounds : Nat) {state : σ}

theorem round_of_accepted
    {value : α} (hvalue : (read.run source state).1 = .ok value)
    (haccept : accept value = true) :
    let round := w.keepReading read accept shown issued deadline (rounds + 1)
    round.answeredBy source now state = ((some (.ok value), now), (read.run source state).2) ∧
      round.exchangesWith source now state = read.transcript source state := by
  intro round
  have hfilter := filter_eq_some_iff.mpr ⟨hvalue, haccept⟩
  simp only [round, Timed.answeredBy, Timed.exchangesWith, startingAt_keepReading_succ,
    Dialogue.run_bind, Dialogue.transcript_bind, hfilter]
  exact ⟨rfl, List.append_nil _⟩

theorem round_of_due
    (hmiss : ¬ IsAccepted accept (read.run source state).1)
    (hpause : w.pause? deadline now = none) :
    let round := w.keepReading read accept shown issued deadline (rounds + 1)
    round.answeredBy source now state =
        ((some (.error (.timeout w.what w.limit (now.since issued)
          (observed shown (read.run source state).1))), now), (read.run source state).2) ∧
      round.exchangesWith source now state = read.transcript source state := by
  intro round
  have hfilter := filter_eq_none_iff.mpr hmiss
  simp only [round, Timed.answeredBy, Timed.exchangesWith, startingAt_keepReading_succ,
    Dialogue.run_bind, Dialogue.transcript_bind, hfilter, afterMiss, hpause]
  exact ⟨rfl, List.append_nil _⟩

theorem round_of_pause
    {pause : Duration} (hmiss : ¬ IsAccepted accept (read.run source state).1)
    (hpause : w.pause? deadline now = some pause) :
    let round := w.keepReading read accept shown issued deadline (rounds + 1)
    let rest := w.keepReading read accept shown issued deadline rounds
    let paused := ((Pausing.pause pause).run source (read.run source state).2).2
    round.answeredBy source now state = rest.answeredBy source (now.after pause) paused ∧
      round.exchangesWith source now state =
        read.transcript source state ++
          (Pausing.pause pause).transcript source (read.run source state).2 ++
            rest.exchangesWith source (now.after pause) paused := by
  intro round rest paused
  have hfilter := filter_eq_none_iff.mpr hmiss
  simp only [round, rest, paused, Timed.answeredBy, Timed.exchangesWith,
    startingAt_keepReading_succ, Dialogue.run_bind, Dialogue.transcript_bind, hfilter, afterMiss,
    hpause, List.append_assoc, and_self]

end Round

section Course

variable {I : Interface} [Pausing I] {α σ : Type} (w : Wait) (source : Responder I σ)
  (read : Dialogue I (Except String α)) (accept : α → Bool) (shown : α → String)
  (start : Instant) (state : σ)

/-- Reads that are not accepted only bring the wait to the next one. -/
theorem loop_of_misses
    {deadline : Option Instant} {number : Nat} (rounds : Nat)
    (hmiss : ∀ earlier < number,
      ¬ IsAccepted accept (w.found source read deadline state earlier))
    (hpause : ∀ earlier < number,
      w.pause? deadline (start.after (w.offset deadline earlier)) =
        some (w.gap deadline earlier)) :
    let loop := w.keepReading read accept shown start deadline (number + rounds)
    let rest := w.keepReading read accept shown start deadline rounds
    let reached := start.after (w.offset deadline number)
    let settled := w.settled source read deadline state number
    loop.answeredBy source start state = rest.answeredBy source reached settled ∧
      loop.exchangesWith source start state =
        w.exchangesBefore source read deadline state number ++
          rest.exchangesWith source reached settled := by
  induction number generalizing rounds with
  | zero =>
      rw [Nat.zero_add, offset_zero]
      exact ⟨rfl, rfl⟩
  | succ number ih =>
      obtain ⟨hbefore, hasked⟩ :=
        ih (rounds + 1) (fun earlier hless => hmiss earlier (Nat.lt_succ_of_lt hless))
          fun earlier hless => hpause earlier (Nat.lt_succ_of_lt hless)
      obtain ⟨hround, hexchanges⟩ :=
        w.round_of_pause shown start _ deadline rounds
          (hmiss number (Nat.lt_succ_self number)) (hpause number (Nat.lt_succ_self number))
      rw [after_gap] at hround hexchanges
      intro loop rest reached settled
      have hloop : loop =
          w.keepReading read accept shown start deadline (number + (rounds + 1)) := by
        simp only [loop, Nat.add_assoc, Nat.add_comm 1]
      rw [hloop]
      refine ⟨hbefore.trans hround, hasked.trans ?_⟩
      rw [hexchanges]
      simp only [exchangesBefore, List.append_assoc]
      rfl

theorem await_eq (patience : Nat) :
    let deadline := start.deadline? w.limit
    let loop :=
      w.keepReading read accept shown start deadline (w.rounds patience start deadline)
    (w.await patience read accept shown).answeredBy source start state =
        loop.answeredBy source start state ∧
      (w.await patience read accept shown).exchangesWith source start state =
        loop.exchangesWith source start state := by
  have hstart := Timed.startingAt_now_bind (fun now =>
    w.keepReading read accept shown now (now.deadline? w.limit)
      (w.rounds patience now (now.deadline? w.limit))) start
  exact ⟨congrArg (Dialogue.run source · state) hstart,
    congrArg (Dialogue.transcript source · state) hstart⟩

variable {w source read accept start state}
variable (hinterval : 0 < w.interval.nanos) {patience : Nat}
include hinterval

theorem reads_le_rounds :
    w.reads patience (start.deadline? w.limit) ≤
      w.rounds patience start (start.deadline? w.limit) := by
  by_cases hclock : start.HasDeadline w.limit
  · have hlast : w.lastRead ≤ w.limit.nanos / w.interval.nanos + 1 := by
      rw [w.lastRead_le_iff hinterval, Nat.succ_mul]
      exact Nat.le_of_lt (Nat.lt_div_mul_add hinterval)
    rw [hclock.deadline?_eq]
    simp only [reads, rounds, if_neg (Nat.ne_of_gt hinterval), Instant.since_after]
    omega
  · rw [Instant.deadline?_eq_none hclock]
    exact Nat.le_refl patience

theorem pause?_before {number : Nat} (hreads : number < w.reads patience (start.deadline? w.limit))
    (earlier : Nat) (hless : earlier < number) :
    w.pause? (start.deadline? w.limit)
        (start.after (w.offset (start.deadline? w.limit) earlier)) =
      some (w.gap (start.deadline? w.limit) earlier) := by
  by_cases hclock : start.HasDeadline w.limit
  · rw [hclock.deadline?_eq] at hreads ⊢
    simp only [reads] at hreads
    exact w.pause?_of_early hinterval start (by omega)
  · rw [Instant.deadline?_eq_none hclock]
    exact w.pause?_none _ earlier

/-- As long as no read is accepted a wait comes to the next of its reads. -/
theorem exists_await_reaching
    {number : Nat} (hreads : number < w.reads patience (start.deadline? w.limit))
    (hbefore : ∀ earlier < number,
      ¬ IsAccepted accept (w.found source read (start.deadline? w.limit) state earlier)) :
    let deadline := start.deadline? w.limit
    let wait := w.await patience read accept shown
    let reached := start.after (w.offset deadline number)
    let settled := w.settled source read deadline state number
    ∃ more,
      let round := w.keepReading read accept shown start deadline (more + 1)
      wait.answeredBy source start state = round.answeredBy source reached settled ∧
        wait.exchangesWith source start state =
          w.exchangesBefore source read deadline state number ++
            round.exchangesWith source reached settled := by
  intro deadline wait reached settled
  obtain ⟨more, hmore⟩ : ∃ more, w.rounds patience start deadline = number + more + 1 :=
    Nat.exists_eq_add_of_lt (Nat.lt_of_lt_of_le hreads (reads_le_rounds hinterval))
  obtain ⟨hawait, hasked⟩ := w.await_eq source read accept shown start state patience
  obtain ⟨hloop, hexchanges⟩ :=
    w.loop_of_misses source read accept shown start state (more + 1) hbefore
      (pause?_before hinterval hreads)
  rw [hmore] at hawait hasked
  exact ⟨more, hawait.trans hloop, hasked.trans hexchanges⟩

/-- The first read that is accepted ends the wait with its value. -/
theorem await_of_accepted
    {first : Nat} {value : α} (hreads : first < w.reads patience (start.deadline? w.limit))
    (hbefore : ∀ earlier < first,
      ¬ IsAccepted accept (w.found source read (start.deadline? w.limit) state earlier))
    (hvalue : w.found source read (start.deadline? w.limit) state first = .ok value)
    (haccept : accept value = true) :
    let deadline := start.deadline? w.limit
    let wait := w.await patience read accept shown
    wait.answeredBy source start state =
        ((some (.ok value), start.after (w.offset deadline first)),
          w.left source read deadline state first) ∧
      wait.exchangesWith source start state =
        w.exchangesBefore source read deadline state first ++
          w.readExchanges source read deadline state first := by
  intro deadline wait
  obtain ⟨more, hawait, hasked⟩ :=
    exists_await_reaching shown hinterval hreads hbefore
  obtain ⟨hround, hread⟩ :=
    w.round_of_accepted shown start (start.after (w.offset deadline first)) deadline more hvalue
      haccept
  exact ⟨hawait.trans hround, hasked.trans (congrArg _ hread)⟩

variable (patience) in
/-- Without an accepted read the wait ends at its deadline, and the failure shows what
the read there found. -/
theorem await_of_late
    (hclock : start.HasDeadline w.limit)
    (hmiss : ∀ number ≤ w.lastRead,
      ¬ IsAccepted accept (w.found source read (start.deadline? w.limit) state number)) :
    let deadline := start.deadline? w.limit
    let wait := w.await patience read accept shown
    wait.answeredBy source start state =
        ((some (.error (.timeout w.what w.limit w.limit
            (observed shown (w.found source read deadline state w.lastRead)))),
          start.after w.limit), w.left source read deadline state w.lastRead) ∧
      wait.exchangesWith source start state =
        w.exchangesBefore source read deadline state w.lastRead ++
          w.readExchanges source read deadline state w.lastRead := by
  intro deadline wait
  have hreads : w.lastRead < w.reads patience deadline := by
    simp only [deadline, hclock.deadline?_eq]
    exact Nat.lt_succ_self w.lastRead
  have hreached : start.after (w.offset deadline w.lastRead) = start.after w.limit := by
    simp only [deadline, hclock.deadline?_eq, w.offset_lastRead hinterval]
  have hdue : w.pause? deadline (start.after w.limit) = none := by
    simp only [deadline, hclock.deadline?_eq, pause?_limit]
  obtain ⟨more, hawait, hasked⟩ :=
    exists_await_reaching shown hinterval hreads fun earlier hless =>
      hmiss earlier (Nat.le_of_lt hless)
  obtain ⟨hround, hread⟩ :=
    w.round_of_due shown start _ deadline more
      (hmiss w.lastRead (Nat.le_refl w.lastRead)) hdue
  rw [hreached] at hawait hasked
  rw [Instant.since_after] at hround
  exact ⟨hawait.trans hround, hasked.trans (congrArg _ hread)⟩

omit hinterval in
/-- Without a deadline and without an accepted read there is no end. -/
theorem await_of_unending
    (hnever : start.deadline? w.limit = none)
    (hmiss : ∀ number < patience,
      ¬ IsAccepted accept (w.found source read none state number)) :
    let wait := w.await patience read accept shown
    wait.answeredBy source start state =
        ((none, start.after (w.offset none patience)),
          w.settled source read none state patience) ∧
      wait.exchangesWith source start state =
        w.exchangesBefore source read none state patience := by
  intro wait
  obtain ⟨hawait, hasked⟩ := w.await_eq source read accept shown start state patience
  obtain ⟨hloop, hexchanges⟩ :=
    w.loop_of_misses source read accept shown start state 0 hmiss
      fun earlier _ => w.pause?_none _ earlier
  rw [hnever] at hawait hasked
  exact ⟨hawait.trans hloop, hasked.trans (hexchanges.trans (List.append_nil _))⟩

end Course

/-! ## Results in turn -/

/-- What the clock of a source shows, and when the source was read so far. -/
structure ReadLog where
  clock : Instant
  readAt : List Instant := []
  deriving DecidableEq, Repr

section InTurn

variable {α : Type}

/-- The reads find the results one after the other. -/
def inTurn (results : Nat → Except String α) : Responder (readings α) ReadLog := ⟨fun
  | .read, log =>
      (results log.readAt.length, { log with readAt := log.readAt ++ [log.clock] })
  | .pause d, log => ((), { log with clock := log.clock.after d })⟩

variable (w : Wait) (results : Nat → Except String α) (deadline : Option Instant)
  (start : Instant)

/-- The log of a wait whose first reads are over, before the next one. -/
def logBefore (clock : Instant) (number : Nat) : ReadLog :=
  ⟨clock, (List.range number).map fun earlier => start.after (w.offset deadline earlier)⟩

theorem read_inTurn (number : Nat) :
    readOnce.run (inTurn results)
        (w.logBefore deadline start (start.after (w.offset deadline number)) number) =
      (results number,
        w.logBefore deadline start (start.after (w.offset deadline number)) (number + 1)) := by
  have hcount : ((List.range number).map fun earlier =>
      start.after (w.offset deadline earlier)).length = number := by
    rw [List.length_map, List.length_range]
  have hlog : (List.range number).map (fun earlier => start.after (w.offset deadline earlier)) ++
      [start.after (w.offset deadline number)] =
        (List.range (number + 1)).map fun earlier => start.after (w.offset deadline earlier) := by
    rw [List.range_succ, List.map_append, List.map_singleton]
  exact Prod.ext (congrArg results hcount) (congrArg (ReadLog.mk _) hlog)

theorem settled_inTurn (number : Nat) :
    w.settled (inTurn results) readOnce deadline ⟨start, []⟩ number =
      w.logBefore deadline start (start.after (w.offset deadline number)) number := by
  induction number with
  | zero => rw [offset_zero]; rfl
  | succ number ih =>
      rw [settled, ih, read_inTurn, ← after_gap]
      rfl

theorem found_inTurn (number : Nat) :
    w.found (inTurn results) readOnce deadline ⟨start, []⟩ number = results number := by
  rw [found, settled_inTurn, read_inTurn]

theorem left_inTurn (number : Nat) :
    w.left (inTurn results) readOnce deadline ⟨start, []⟩ number =
      w.logBefore deadline start (start.after (w.offset deadline number)) (number + 1) := by
  rw [left, settled_inTurn, read_inTurn]

variable {w results start} {accept : α → Bool} (shown : α → String) {patience : Nat}

theorem await_inTurn_of_accepted
    (hinterval : 0 < w.interval.nanos) {first : Nat} {value : α}
    (hfirst : IsLeast {number | IsAccepted accept (results number)} first)
    (hreads : first < w.reads patience (start.deadline? w.limit))
    (hvalue : results first = .ok value) :
    let readAt := fun number => start.after (w.offset (start.deadline? w.limit) number)
    (w.await patience readOnce accept shown).answeredBy (inTurn results) start ⟨start, []⟩ =
      ((some (.ok value), readAt first),
        ⟨readAt first, (List.range (first + 1)).map readAt⟩) := by
  intro readAt
  obtain ⟨found, hfound, haccept⟩ := hfirst.1
  obtain rfl : found = value := Except.ok.inj (hfound.symm.trans hvalue)
  have hbefore : ∀ earlier < first, ¬ IsAccepted accept
      (w.found (inTurn results) readOnce (start.deadline? w.limit) ⟨start, []⟩ earlier) := by
    intro earlier hless
    rw [found_inTurn]
    exact fun haccepted => Nat.not_le.mpr hless (hfirst.2 haccepted)
  obtain ⟨hwait, -⟩ :=
    await_of_accepted shown hinterval hreads hbefore
      ((w.found_inTurn results _ start first).trans hfound) haccept
  exact hwait.trans (congrArg (Prod.mk _) (w.left_inTurn results _ start first))

variable (patience) in
theorem await_inTurn_of_late
    (hinterval : 0 < w.interval.nanos) (hclock : start.HasDeadline w.limit)
    (hmiss : ∀ number ≤ w.lastRead, ¬ IsAccepted accept (results number)) :
    let readAt := fun number => start.after (w.offset (start.deadline? w.limit) number)
    (w.await patience readOnce accept shown).answeredBy (inTurn results) start ⟨start, []⟩ =
      ((some (.error (.timeout w.what w.limit w.limit
          (observed shown (results w.lastRead)))), start.after w.limit),
        ⟨start.after w.limit, (List.range (w.lastRead + 1)).map readAt⟩) := by
  intro readAt
  have hreached : start.after (w.offset (start.deadline? w.limit) w.lastRead) =
      start.after w.limit := by
    rw [hclock.deadline?_eq, w.offset_lastRead hinterval]
  have hmissed : ∀ number ≤ w.lastRead, ¬ IsAccepted accept
      (w.found (inTurn results) readOnce (start.deadline? w.limit) ⟨start, []⟩ number) := by
    intro number hle
    rw [found_inTurn]
    exact hmiss number hle
  obtain ⟨hwait, -⟩ := await_of_late shown hinterval patience hclock hmissed
  rw [found_inTurn, left_inTurn, hreached] at hwait
  exact hwait

theorem await_inTurn_of_unending
    (hnever : start.deadline? w.limit = none)
    (hmiss : ∀ number < patience, ¬ IsAccepted accept (results number)) :
    let readAt := fun number => start.after (w.offset (start.deadline? w.limit) number)
    (w.await patience readOnce accept shown).answeredBy (inTurn results) start ⟨start, []⟩ =
      ((none, readAt patience), ⟨readAt patience, (List.range patience).map readAt⟩) := by
  intro readAt
  have hmissed : ∀ number < patience, ¬ IsAccepted accept
      (w.found (inTurn results) readOnce none ⟨start, []⟩ number) := by
    intro number hless
    rw [found_inTurn]
    exact hmiss number hless
  obtain ⟨hwait, -⟩ := await_of_unending shown hnever hmissed
  rw [settled_inTurn, ← hnever] at hwait
  exact hwait

end InTurn

/-- Whatever the reads find, they are made at the offsets and the first accepted one ends
the wait there.  Without one the wait ends at the deadline, with what the read made there
found, or where there is no deadline it never ends. -/
theorem await_schedule
    {α : Type} (w : Wait) (hinterval : 0 < w.interval.nanos)
    (results : Nat → Except String α) (accept : α → Bool) (shown : α → String)
    (patience : Nat) (start : Instant) :
    let deadline := start.deadline? w.limit
    let readAt := fun number => start.after (w.offset deadline number)
    let wait :=
      (w.await patience readOnce accept shown).answeredBy (inTurn results) start ⟨start, []⟩
    (∀ first value, IsLeast {number | IsAccepted accept (results number)} first →
      first < w.reads patience deadline → results first = .ok value →
        wait =
          ((some (.ok value), readAt first),
            ⟨readAt first, (List.range (first + 1)).map readAt⟩)) ∧
    (deadline ≠ none → (∀ number ≤ w.lastRead, ¬ IsAccepted accept (results number)) →
      wait =
        ((some (.error (.timeout w.what w.limit w.limit
            (observed shown (results w.lastRead)))), start.after w.limit),
          ⟨start.after w.limit, (List.range (w.lastRead + 1)).map readAt⟩)) ∧
    (deadline ≠ none → readAt w.lastRead = start.after w.limit) ∧
    (deadline = none → (∀ number < patience, ¬ IsAccepted accept (results number)) →
      wait = ((none, readAt patience), ⟨readAt patience, (List.range patience).map readAt⟩)) := by
  intro deadline readAt wait
  refine ⟨?_, ?_, ?_, ?_⟩
  · intro first value hfirst hreads hvalue
    exact await_inTurn_of_accepted shown hinterval hfirst hreads hvalue
  · intro hclock hmiss
    exact await_inTurn_of_late shown patience hinterval
      (Instant.hasDeadline_of_ne_none hclock) hmiss
  · intro hclock
    obtain ⟨due, hdue⟩ := Option.ne_none_iff_exists'.mp hclock
    simp only [readAt, hdue, w.offset_lastRead hinterval]
  · intro hnever hmiss
    exact await_inTurn_of_unending shown hnever hmiss

/-- Up from the fourth read on, and now and then out of reach before. -/
def comingUp : Nat → Except String String
  | 0 => .error "unavailable"
  | 1 => .ok "DOWN"
  | 2 => .error "unavailable"
  | _ + 3 => .ok "UP"

def interfaceWait : Wait := ⟨"et-0/0/0", .ofSeconds 2, .ofSeconds 5⟩

/-- The fourth read is made at the deadline, after a pause that was cut short. -/
theorem interfaceWait_schedule :
    0 < interfaceWait.interval.nanos ∧
      IsLeast {number | IsAccepted (· == "UP") (comingUp number)} 3 ∧
        (interfaceWait.await 0 readOnce (· == "UP") id).answeredBy (inTurn comingUp) ⟨0⟩ ⟨⟨0⟩, []⟩ =
          ((some (.ok "UP"), ⟨5000000000⟩),
            ⟨⟨5000000000⟩, [⟨0⟩, ⟨2000000000⟩, ⟨4000000000⟩, ⟨5000000000⟩]⟩) := by
  have hinterval : 0 < interfaceWait.interval.nanos := by decide
  have hfirst : IsLeast {number | IsAccepted (· == "UP") (comingUp number)} 3 := by
    refine ⟨⟨"UP", rfl, by decide⟩, ?_⟩
    rintro number ⟨value, hvalue, haccept⟩
    match number, hvalue with
    | 1, hvalue =>
        obtain rfl := Except.ok.inj hvalue
        cases haccept
    | number + 3, _ => exact Nat.le_add_left 3 number
  have hschedule :=
    (await_schedule interfaceWait hinterval comingUp (· == "UP") id 0 ⟨0⟩).1 3 "UP" hfirst
      (by decide) rfl
  exact ⟨hinterval, hfirst, hschedule.trans rfl⟩

end Wait

end CardReboot
