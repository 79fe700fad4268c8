import CardReboot.Bench

/-!
# Polling the reboot status

After a reboot the device is asked at a fixed interval whether the reboot is
still going on.  An answer that it is over, or that the device does not know the
question, ends the poll.  Any other error is expected while a card restarts and
only leads to the next question.  The deadline counts from the instant when the
reboot was issued and is looked at before each question.
-/

namespace CardReboot

inductive PollState
  | polling
  | completed
  | timedOut
  | unsupported
  deriving DecidableEq, Repr

namespace PollState

def isTerminal (s : PollState) : Bool := s != .polling

/-- What one answer makes of the state; a state that ends the poll stays. -/
def next : PollState → Answered RebootStatus → PollState
  | .polling, .ok status => if status.active then .polling else .completed
  | .polling, .error e => if e.isUnimplemented then .unsupported else .polling
  | state, _ => state

end PollState

/-- How a poll ended. -/
structure PollReport where
  state : PollState
  elapsed : Duration
  queries : Nat
  lastStatus : Option RebootStatus
  lastError : Option String
  deriving DecidableEq, Repr

namespace PollReport

/-- What the most recent question brought to light. -/
def lastObserved (r : PollReport) : String :=
  match r.lastError, r.lastStatus with
  | some e, _ => "error: " ++ e
  | none, some status => "active=" ++ (if status.active then "true" else "false")
  | none, none => "no status answer"

/-- A poll that did not end with the reboot being over is a failure. -/
def result (r : PollReport) (component : String) (limit : Duration) : Outcome PollReport :=
  match r.state with
  | .completed => .ok r
  | .unsupported => .error (.statusUnimplemented component)
  | .timedOut | .polling =>
      .error (.timeout ("reboot of " ++ component) limit r.elapsed r.lastObserved)

end PollReport

namespace StatusPoll

/-- The fixed pause before each question. -/
def interval : Duration := .ofSeconds 10

/-- How far a poll has come. -/
structure Progress where
  queries : Nat := 0
  lastStatus : Option RebootStatus := none
  lastError : Option String := none
  deriving DecidableEq, Repr

def Progress.start : Progress := {}

/-- Counts a question and keeps what its answer says. -/
def Progress.record (p : Progress) : Answered RebootStatus → Progress
  | .ok status => ⟨p.queries + 1, some status, none⟩
  | .error e => ⟨p.queries + 1, p.lastStatus, some e.message⟩

def Progress.report (p : Progress) (state : PollState) (elapsed : Duration) : PollReport :=
  ⟨state, elapsed, p.queries, p.lastStatus, p.lastError⟩

/-- Whether the deadline has come; without a deadline it never does. -/
def isDue (deadline : Option Instant) (now : Instant) : Bool :=
  match deadline with
  | some d => d.nanos ≤ now.nanos
  | none => false

/-- Pauses and asks until an answer ends the poll or the deadline has come, at
most `rounds` times. -/
def keepAsking (request : StatusRequest) (deadline : Option Instant) (start : Instant) :
    Nat → Progress → Timed bench PollReport
  | 0, _ => Timed.abandoned
  | rounds + 1, progress => do
      Timed.pause interval
      let now ← Timed.now
      if isDue deadline now then
        return progress.report .timedOut (now.since start)
      let answer ← Timed.ask (Bench.rebootStatus request)
      let state := PollState.polling.next answer
      if state.isTerminal then
        return (progress.record answer).report state (now.since start)
      keepAsking request deadline start rounds (progress.record answer)

/-- As many rounds as fit before the deadline, and one to find that it has come.
Without a deadline there are as many as patience allows. -/
def rounds (patience : Nat) (now : Instant) : Option Instant → Nat
  | some deadline => (deadline.since now).nanos / interval.nanos + 1
  | none => patience

/-- Polls until `limit` has passed since the reboot was issued. -/
def pollFrom (patience : Nat) (issued : Instant) (limit : Duration) (request : StatusRequest) :
    Timed bench PollReport := do
  let start ← Timed.now
  let deadline := issued.deadline? limit
  keepAsking request deadline start (rounds patience start deadline) .start

/-- Polls until `limit` has passed from now on. -/
def poll (patience : Nat) (limit : Duration) (request : StatusRequest) :
    Timed bench PollReport := do
  pollFrom patience (← Timed.now) limit request

end StatusPoll

end CardReboot
