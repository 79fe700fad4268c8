import CardReboot.Bench
import CardReboot.TrapTable.Table

/-!
# Watching for dropped packets

While the generator sends traffic through a line card, the trap table of the
card is sampled at a fixed interval.  A record with another rate than zero is a
violation.  The ingress counter is read before and after, because a zero rate
proves nothing when no packet came in.

A window that cannot be opened fails as a whole.  Once traffic is started it is
always stopped, the counter is always read again, and whatever goes wrong on the
way lands in the report.
-/

namespace CardReboot

/-- A record with another rate than zero, and the sample it was seen in. -/
structure DropViolation where
  sample : Nat
  record : TrapRecord
  deriving DecidableEq, Repr

/-- What was observed in one window. -/
structure DropReport where
  ingress : String
  packetsBefore : Nat
  packetsAfter : Option Nat := none
  violations : List DropViolation := []
  /-- How many samples were fetched and read. -/
  samples : Nat := 0
  /-- The failure that ended the sampling early. -/
  aborted : Option Failure := none
  /-- The failures after the sampling. -/
  errors : List Failure := []

namespace DropReport

def trafficFlowed (r : DropReport) : Bool :=
  match r.packetsAfter with
  | some after => r.packetsBefore < after
  | none => false

/-- The failure for all violations together. -/
def dropFailure? (violations : List DropViolation) : Option Failure :=
  if violations.isEmpty then none
  else some (.nonZeroDropRate violations.length
    (", ".intercalate (violations.map fun v =>
      "#" ++ v.sample.repr ++ " " ++ v.record.name ++ " rate " ++ v.record.rate.repr)))

/-- The failure when the counter was read again and had not grown. -/
def flowFailure? (r : DropReport) : Option Failure :=
  match r.packetsAfter with
  | some after =>
      if r.packetsBefore < after then none
      else some (.trafficNotFlowing r.ingress r.packetsBefore after)
  | none => none

/-- Everything that went wrong, in the order in which it is reported. -/
def failures (r : DropReport) : List Failure :=
  (dropFailure? r.violations).toList ++ r.aborted.toList ++ r.errors ++ r.flowFailure?.toList

def result (r : DropReport) : Outcome Unit :=
  match Failure.ofList? r.failures with
  | some failure => .error failure
  | none => .ok ()

end DropReport

/-- The records of a sample that tell of dropped packets. -/
def dropsIn (sample : Nat) (records : List TrapRecord) : List DropViolation :=
  (records.filter fun r => r.rate != 0).map (DropViolation.mk sample)

namespace DropWindow

/-- Fetches the trap table once and reads it. -/
def sample (command : String) : Dialogue bench (Outcome (List TrapRecord)) := do
  match ← Bench.console command with
  | .error e => return .error (.during ("run '" ++ command ++ "'") e)
  | .ok result =>
      if result.isError then return .error (.commandFailed command result.error)
      return TrapTable.parse result.output

/-- Takes the samples numbered from `taken` on until one fails. -/
def takeSamples (interval : Duration) (command : String) :
    Nat → Nat → DropReport → Timed bench DropReport
  | 0, _, report => return report
  | count + 1, taken, report => do
      Timed.pause interval
      match ← Timed.ask (sample command) with
      | .error failure => return { report with aborted := some failure }
      | .ok records =>
          takeSamples interval command count (taken + 1)
            { report with
              samples := report.samples + 1
              violations := report.violations ++ dropsIn taken records }

/-- Stops the traffic and reads the counter again. -/
def close (ingress : String) (report : DropReport) : Dialogue bench DropReport := do
  let report ← match ← Bench.stopTraffic with
    | .error e =>
        pure { report with errors := report.errors ++ [.during "stop traffic" e] }
    | .ok () => pure report
  match ← Bench.ingressPackets ingress with
  | .error e =>
      return { report with
        errors := report.errors ++ [.during ("read counters of " ++ ingress) e] }
  | .ok after => return { report with packetsAfter := some after }

/-- Watches a line card for `count` samples with traffic entering at `ingress`. -/
def watch (interval : Duration) (count : Nat) (linecard ingress : String) :
    Timed bench (Outcome DropReport) := do
  match ← Timed.ask (Bench.ingressPackets ingress) with
  | .error e => return .error (.during ("read counters of " ++ ingress) e)
  | .ok before =>
      match ← Timed.ask Bench.startTraffic with
      | .error e => return .error (.during "start traffic" e)
      | .ok () =>
          let opened : DropReport := { ingress := ingress, packetsBefore := before }
          let sampled ← takeSamples interval (TrapTable.command linecard) count 0 opened
          return .ok (← Timed.ask (close ingress sampled))

end DropWindow

end CardReboot
