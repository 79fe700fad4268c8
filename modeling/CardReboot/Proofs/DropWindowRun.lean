import CardReboot.DropWindow
import CardReboot.Proofs.TimedRun

/-!
# The runs of a drop window

The sampling is determined by the answers that the console gives: it goes on
while they can be read and ends with the first that cannot.  A window that opens
asks for the counter and for traffic, then for one table after the other, and
closes with the stop of the traffic and the counter again, whatever the tables
were.
-/

namespace CardReboot

namespace DropWindow

def reading (command : String) : Answered CommandOutput → Outcome (List TrapRecord)
  | .error e => .error (.during ("run '" ++ command ++ "'") e)
  | .ok result =>
      if result.isError then .error (.commandFailed command result.error)
      else TrapTable.parse result.output

theorem sample_eq (command : String) :
    sample command =
      (Bench.console command).bind fun answer => .done (reading command answer) := by
  change (Bench.console command).bind _ = _
  congr 1
  funext answer
  cases answer with
  | error e => rfl
  | ok result =>
      change (if _ then _ else _) = _
      unfold reading
      split <;> simp [*]

theorem sample_produces_iff
    {command : String} {transcript : Transcript bench}
    {outcome : Outcome (List TrapRecord)} :
    (sample command).Produces transcript outcome ↔
      ∃ answer, transcript = [⟨.console command, answer⟩] ∧
        outcome = reading command answer := by
  rw [sample_eq]
  constructor
  · intro h
    obtain ⟨answer, rest, rfl, hrest⟩ := Dialogue.produces_question_bind_iff.mp h
    obtain ⟨rfl, rfl⟩ := Dialogue.produces_done_iff.mp hrest
    exact ⟨answer, rfl, rfl⟩
  · rintro ⟨answer, rfl, rfl⟩
    exact .ask (.done _)

/-! ## Sampling -/

/-- The answers that `count` samples get: all of them can be read, or the last
one ends the sampling. -/
inductive Sampling (command : String) : Nat → List (Answered CommandOutput) → Prop
  | finished : Sampling command 0 []
  | aborted {count : Nat} {answer : Answered CommandOutput} {failure : Failure}
      (hread : reading command answer = .error failure) :
      Sampling command (count + 1) [answer]
  | taken {count : Nat} {answer : Answered CommandOutput} {records : List TrapRecord}
      {rest : List (Answered CommandOutput)}
      (hread : reading command answer = .ok records)
      (hrest : Sampling command count rest) :
      Sampling command (count + 1) (answer :: rest)

theorem Sampling.length_le
    {command : String} {count : Nat} {answers : List (Answered CommandOutput)}
    (hsampling : Sampling command count answers) : answers.length ≤ count := by
  induction hsampling with
  | finished => exact Nat.le_refl 0
  | aborted _ => simp
  | taken _ _ ih => exact Nat.succ_le_succ ih

def tally (command : String) : Nat → DropReport → List (Answered CommandOutput) → DropReport
  | _, report, [] => report
  | taken, report, answer :: rest =>
      match reading command answer with
      | .error failure => { report with aborted := some failure }
      | .ok records =>
          tally command (taken + 1)
            { report with
              samples := report.samples + 1
              violations := report.violations ++ dropsIn taken records } rest

def sampleExchanges
    (interval : Duration) (command : String) (answer : Answered CommandOutput) :
    Transcript bench :=
  [⟨.pause interval, ()⟩, ⟨.console command, answer⟩]

theorem exists_of_runs_takeSamples_succ
    {interval : Duration} {command : String} {count taken : Nat} {report : DropReport}
    {start stop : Instant} {transcript : Transcript bench}
    {result : Option DropReport}
    (hrun : (takeSamples interval command (count + 1) taken report).Runs
      start transcript result stop) :
    ∃ answer rest, transcript = sampleExchanges interval command answer ++ rest ∧
      match reading command answer with
      | .error failure =>
          rest = [] ∧ result = some { report with aborted := some failure } ∧
            stop = start.after interval
      | .ok records =>
          (takeSamples interval command count (taken + 1)
            { report with
              samples := report.samples + 1
              violations := report.violations ++ dropsIn taken records }).Runs
            (start.after interval) rest result stop := by
  rw [takeSamples] at hrun
  obtain ⟨_, rfl, hrest⟩ := Timed.runs_pause_bind_iff.mp hrun
  obtain ⟨before, after, outcome, rfl, hsample, hafter⟩ :=
    Timed.runs_ask_bind_iff.mp hrest
  obtain ⟨answer, rfl, rfl⟩ := sample_produces_iff.mp hsample
  refine ⟨answer, after, rfl, ?_⟩
  cases hread : reading command answer with
  | error failure =>
      rw [hread] at hafter
      exact Timed.runs_pure_iff.mp hafter
  | ok records =>
      rw [hread] at hafter
      exact hafter

/-- A run of the sampling is given by the answers of the console. -/
theorem exists_sampling_of_runs_takeSamples
    {interval : Duration} {command : String} {count taken : Nat} {report : DropReport}
    {start stop : Instant} {transcript : Transcript bench}
    {result : Option DropReport}
    (hrun : (takeSamples interval command count taken report).Runs
      start transcript result stop) :
    ∃ answers, Sampling command count answers ∧
      transcript = answers.flatMap (sampleExchanges interval command) ∧
        result = some (tally command taken report answers) ∧
          stop = start.after (interval.times answers.length) := by
  induction count generalizing taken report start transcript with
  | zero =>
      obtain ⟨rfl, rfl, rfl⟩ := Timed.runs_pure_iff.mp hrun
      exact ⟨[], .finished, rfl, rfl, by simp⟩
  | succ count ih =>
      obtain ⟨answer, rest, rfl, hrest⟩ := exists_of_runs_takeSamples_succ hrun
      cases hread : reading command answer with
      | error failure =>
          rw [hread] at hrest
          obtain ⟨rfl, rfl, rfl⟩ := hrest
          exact ⟨[answer], .aborted hread, by simp, by simp [tally, hread],
            by simp [Duration.times]⟩
      | ok records =>
          rw [hread] at hrest
          obtain ⟨answers, hanswers, rfl, rfl, rfl⟩ := ih hrest
          exact ⟨answer :: answers, .taken hread hanswers, by simp,
            by simp [tally, hread], Instant.after_after_times ..⟩

/-! ## Closing and the whole window -/

def closingErrors
    (ingress : String) (stopped : Answered Unit) (counted : Answered Nat) :
    List Failure :=
  (match stopped with
    | .error e => [.during "stop traffic" e]
    | .ok () => []) ++
  (match counted with
    | .error e => [.during ("read counters of " ++ ingress) e]
    | .ok _ => [])

def closed
    (ingress : String) (report : DropReport)
    (stopped : Answered Unit) (counted : Answered Nat) : DropReport :=
  { report with
    errors := report.errors ++ closingErrors ingress stopped counted
    packetsAfter := counted.toOption.or report.packetsAfter }

theorem close_eq (ingress : String) (report : DropReport) :
    close ingress report =
      Bench.stopTraffic.bind fun stopped =>
        (Bench.ingressPackets ingress).bind fun counted =>
          .done (closed ingress report stopped counted) := by
  change Bench.stopTraffic.bind _ = _
  congr 1
  funext stopped
  cases stopped with
  | error e =>
      change (Bench.ingressPackets ingress).bind _ = _
      congr 1
      funext counted
      cases counted <;> simp [closed, closingErrors, Except.toOption]
  | ok _ =>
      change (Bench.ingressPackets ingress).bind _ = _
      congr 1
      funext counted
      cases counted <;> simp [closed, closingErrors, Except.toOption]

theorem exists_of_close_produces
    {ingress : String} {report final : DropReport} {transcript : Transcript bench}
    (hrun : (close ingress report).Produces transcript final) :
    ∃ stopped counted,
      transcript = [⟨.stopTraffic, stopped⟩, ⟨.ingressPackets ingress, counted⟩] ∧
        final = closed ingress report stopped counted := by
  rw [close_eq] at hrun
  obtain ⟨stopped, _, rfl, hrest⟩ := Dialogue.produces_question_bind_iff.mp hrun
  obtain ⟨counted, _, rfl, hend⟩ := Dialogue.produces_question_bind_iff.mp hrest
  obtain ⟨rfl, rfl⟩ := Dialogue.produces_done_iff.mp hend
  exact ⟨stopped, counted, rfl, rfl⟩

def windowExchanges
    (interval : Duration) (linecard ingress : String) (before : Nat)
    (answers : List (Answered CommandOutput))
    (stopped : Answered Unit) (counted : Answered Nat) : Transcript bench :=
  [⟨.ingressPackets ingress, .ok before⟩, ⟨.startTraffic, .ok ()⟩] ++
    answers.flatMap (sampleExchanges interval (TrapTable.command linecard)) ++
      [⟨.stopTraffic, stopped⟩, ⟨.ingressPackets ingress, counted⟩]

def openedReport (ingress : String) (before : Nat) : DropReport :=
  { ingress := ingress, packetsBefore := before }

def windowReport
    (linecard ingress : String) (before : Nat)
    (answers : List (Answered CommandOutput))
    (stopped : Answered Unit) (counted : Answered Nat) : DropReport :=
  closed ingress
    (tally (TrapTable.command linecard) 0 (openedReport ingress before) answers)
    stopped counted

/-- The three ways in which a window can go: the counter cannot be read, the
traffic cannot be started, or the window is opened and closed. -/
inductive WindowRun
    (interval : Duration) (count : Nat) (linecard ingress : String) (start : Instant) :
    Transcript bench → Outcome DropReport → Instant → Prop
  | uncounted (e : DeviceError) :
      WindowRun interval count linecard ingress start
        [⟨.ingressPackets ingress, .error e⟩]
        (.error (.during ("read counters of " ++ ingress) e)) start
  | unstarted (before : Nat) (e : DeviceError) :
      WindowRun interval count linecard ingress start
        [⟨.ingressPackets ingress, .ok before⟩, ⟨.startTraffic, .error e⟩]
        (.error (.during "start traffic" e)) start
  | opened {before : Nat} {answers : List (Answered CommandOutput)}
      {stopped : Answered Unit} {counted : Answered Nat}
      (hsampling : Sampling (TrapTable.command linecard) count answers) :
      WindowRun interval count linecard ingress start
        (windowExchanges interval linecard ingress before answers stopped counted)
        (.ok (windowReport linecard ingress before answers stopped counted))
        (start.after (interval.times answers.length))

theorem exists_windowRun_of_runs_watch
    {interval : Duration} {count : Nat} {linecard ingress : String}
    {start stop : Instant} {transcript : Transcript bench}
    {result : Option (Outcome DropReport)}
    (hrun : (watch interval count linecard ingress).Runs start transcript result stop) :
    ∃ outcome, result = some outcome ∧
      WindowRun interval count linecard ingress start transcript outcome stop := by
  unfold watch at hrun
  obtain ⟨_, rest, counted, rfl, hcounted, hrest⟩ := Timed.runs_ask_bind_iff.mp hrun
  obtain rfl := Dialogue.produces_question_iff.mp hcounted
  cases counted with
  | error e =>
      obtain ⟨rfl, rfl, rfl⟩ := Timed.runs_pure_iff.mp hrest
      exact ⟨_, rfl, .uncounted e⟩
  | ok before =>
      obtain ⟨_, _, started, rfl, hstarted, hopened⟩ := Timed.runs_ask_bind_iff.mp hrest
      obtain rfl := Dialogue.produces_question_iff.mp hstarted
      cases started with
      | error e =>
          obtain ⟨rfl, rfl, rfl⟩ := Timed.runs_pure_iff.mp hopened
          exact ⟨_, rfl, .unstarted before e⟩
      | ok _ =>
          rcases Timed.runs_bind_iff.mp hopened with
            ⟨_, _, sampled, middle, rfl, hsampled, hclosing⟩ | ⟨habandoned, -⟩
          · obtain ⟨answers, hsampling, rfl, hreport, rfl⟩ :=
              exists_sampling_of_runs_takeSamples hsampled
            cases hreport
            obtain ⟨_, _, final, rfl, hclose, hend⟩ :=
              Timed.runs_ask_bind_iff.mp hclosing
            obtain ⟨stopped, counted, rfl, rfl⟩ := exists_of_close_produces hclose
            obtain ⟨rfl, rfl, rfl⟩ := Timed.runs_pure_iff.mp hend
            exact ⟨_, rfl, .opened hsampling⟩
          · obtain ⟨answers, -, -, hreport, -⟩ :=
              exists_sampling_of_runs_takeSamples habandoned
            cases hreport

end DropWindow

end CardReboot
