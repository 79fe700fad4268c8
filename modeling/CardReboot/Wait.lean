import CardReboot.Dialogue
import CardReboot.Failure

/-!
# Waiting for a state

A value is read again and again until it is acceptable or the time is up.  The
first read is made at once, the others at a fixed interval, and the last one at
the deadline itself: the pause before it is cut short, and a value that is
acceptable then still counts.  A read that fails counts as a value that is not
acceptable.  The failure at the end tells what the last read observed.
-/

namespace CardReboot

/-- What is waited for, how often it is read and how long at most. -/
structure Wait where
  what : String
  interval : Duration
  limit : Duration
  deriving DecidableEq, Repr

namespace Wait

variable {I : Interface} {α : Type}

/-- The pause before the next read: none when the deadline has come. -/
def pause? (w : Wait) (deadline : Option Instant) (now : Instant) : Option Duration :=
  match deadline with
  | some d => if d.nanos ≤ now.nanos then none else some (w.interval.min (d.since now))
  | none => some w.interval

/-- What a read observed, as a message shows it. -/
def observed (shown : α → String) : Except String α → String
  | .ok value => shown value
  | .error e => "error: " ++ e

/-- Reads at most `rounds` times. -/
def keepReading [Pausing I] (w : Wait) (read : Dialogue I (Except String α))
    (accept : α → Bool) (shown : α → String) (start : Instant) (deadline : Option Instant) :
    Nat → Timed I (Outcome α)
  | 0 => Timed.abandoned
  | rounds + 1 => do
      let found ← Timed.ask read
      match found.toOption.filter accept with
      | some value => return .ok value
      | none =>
          let now ← Timed.now
          match w.pause? deadline now with
          | none =>
              return .error (.timeout w.what w.limit (now.since start) (observed shown found))
          | some pause =>
              Timed.pause pause
              keepReading w read accept shown start deadline rounds

/-- As many rounds as reach the deadline, and one more.  Without a deadline, or
with no pause between reads, there are as many more as patience allows. -/
def rounds (w : Wait) (patience : Nat) (now : Instant) : Option Instant → Nat
  | some deadline =>
      if w.interval.nanos = 0 then patience + 1
      else (deadline.since now).nanos / w.interval.nanos + 2
  | none => patience

/-- Reads until a value is acceptable or the limit has passed. -/
def await [Pausing I] (w : Wait) (patience : Nat) (read : Dialogue I (Except String α))
    (accept : α → Bool) (shown : α → String) : Timed I (Outcome α) := do
  let start ← Timed.now
  let deadline := start.deadline? w.limit
  keepReading w read accept shown start deadline (w.rounds patience start deadline)

end Wait

end CardReboot
