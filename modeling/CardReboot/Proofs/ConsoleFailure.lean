import CardReboot.Proofs.CarriedOut
import CardReboot.Proofs.DropWindowVerdict
import CardReboot.Tool.Device
import Mathlib

/-!
# Failed console commands

A console command is one process on the host.  What a failed process wrote becomes the
error of the answer, and an answer is an error when that text is not empty: a process
that fails without a word leaves an answer like that of a command with nothing to print.
A drop window over the tools runs one process per sample, and counts exactly the samples
whose process succeeded with a table that can be read or failed in silence.
-/

namespace CardReboot

namespace Tool

/-! ## One command -/

def consoleAnswer : Answered ProcessResult → Answered CommandOutput
  | .error e => .error e
  | .ok result => .ok (consoleOutput result)

/-- The process could not be run, or it ended with another exit code than zero. -/
def HasFailed : Answered ProcessResult → Prop
  | .error _ => True
  | .ok result => result.exitCode ≠ 0

/-- The process was run and wrote nothing. -/
def IsSilent : Answered ProcessResult → Prop
  | .error _ => False
  | .ok result => result.output = "" ∧ result.error = ""

/-- The answer says that the command failed. -/
def TellsFailure : Answered CommandOutput → Prop
  | .error _ => True
  | .ok printed => printed.isError = true

theorem runConsole_eq (t : Target) (command : String) :
    runConsole t command =
      (Host.run (consoleCommand t command)).bind fun process =>
        .done (consoleAnswer process) := by
  change (Host.run (consoleCommand t command)).bind _ = _
  congr 1
  funext process
  cases process <;> rfl

theorem runConsole_produces_iff
    {t : Target} {command : String} {transcript : Transcript host}
    {answer : Answered CommandOutput} :
    (runConsole t command).Produces transcript answer ↔
      ∃ process, transcript = [⟨.run (consoleCommand t command), process⟩] ∧
        answer = consoleAnswer process := by
  rw [runConsole_eq]
  constructor
  · intro hproduces
    obtain ⟨process, rest, rfl, hrest⟩ := Dialogue.produces_question_bind_iff.mp hproduces
    obtain ⟨rfl, rfl⟩ := Dialogue.produces_done_iff.mp hrest
    exact ⟨process, rfl, rfl⟩
  · rintro ⟨process, rfl, rfl⟩
    exact .ask (.done _)

theorem combined_eq_empty_iff {result : ProcessResult} :
    result.combined = "" ↔ result.output = "" ∧ result.error = "" := by
  unfold ProcessResult.combined
  by_cases herror : result.error = ""
  · simp [herror]
  · by_cases houtput : result.output = ""
    · simp [herror, houtput]
    · simp [herror, houtput]

theorem consoleOutput_of_failed {result : ProcessResult} (hexit : result.exitCode ≠ 0) :
    consoleOutput result = ⟨"", result.combined⟩ := by
  simp [consoleOutput, ProcessResult.succeeded, hexit, CommandOutput.failed]

theorem consoleOutput_of_succeeded {result : ProcessResult} (hexit : result.exitCode = 0) :
    consoleOutput result = ⟨result.output, ""⟩ := by
  simp [consoleOutput, ProcessResult.succeeded, hexit, CommandOutput.ok]

theorem tellsFailure_consoleAnswer_iff {process : Answered ProcessResult} :
    TellsFailure (consoleAnswer process) ↔ HasFailed process ∧ ¬ IsSilent process := by
  cases process with
  | error e => simp [TellsFailure, consoleAnswer, HasFailed, IsSilent]
  | ok result =>
      by_cases hexit : result.exitCode = 0
      · simp [TellsFailure, consoleAnswer, HasFailed, IsSilent, CommandOutput.isError,
          consoleOutput_of_succeeded, hexit]
      · have hsilent := @combined_eq_empty_iff result
        simp [TellsFailure, consoleAnswer, HasFailed, IsSilent, CommandOutput.isError,
          consoleOutput_of_failed, hexit, hsilent]

/-! ## One sample -/

/-- A process whose sample counts. -/
inductive IsCounted : Answered ProcessResult → Prop
  | table {result : ProcessResult} {records : List TrapRecord} (hexit : result.exitCode = 0)
      (hparse : TrapTable.parse result.output = .ok records) : IsCounted (.ok result)
  | silence {result : ProcessResult} (hexit : result.exitCode ≠ 0)
      (hsilent : IsSilent (.ok result)) : IsCounted (.ok result)

theorem exists_reading_consoleAnswer_iff {command : String} {process : Answered ProcessResult} :
    (∃ records, DropWindow.reading command (consoleAnswer process) = .ok records) ↔
      IsCounted process := by
  simp only [DropWindow.reading_eq_ok_iff]
  constructor
  · rintro ⟨records, output, hanswer, hparse⟩
    cases process with
    | error e => cases hanswer
    | ok result =>
        have hprinted : consoleOutput result = ⟨output, ""⟩ := Except.ok.inj hanswer
        by_cases hexit : result.exitCode = 0
        · rw [consoleOutput_of_succeeded hexit] at hprinted
          cases hprinted
          exact .table hexit hparse
        · rw [consoleOutput_of_failed hexit, CommandOutput.mk.injEq] at hprinted
          exact .silence hexit (combined_eq_empty_iff.mp hprinted.2)
  · intro hcounted
    cases hcounted with
    | @table result records hexit hparse =>
        refine ⟨records, result.output, ?_, hparse⟩
        rw [consoleAnswer, consoleOutput_of_succeeded hexit]
    | @silence result hexit hsilent =>
        refine ⟨[], "", ?_, rfl⟩
        rw [consoleAnswer, consoleOutput_of_failed hexit, combined_eq_empty_iff.mpr hsilent]

end Tool

namespace DropWindow

/-- The samples that count are the ones before the one that cannot be read. -/
theorem Sampling.exists_readable
    {command : String} {count : Nat} {answers : List (Answered CommandOutput)}
    (hsampling : Sampling command count answers) (taken : Nat) (report : DropReport) :
    ∃ readable unreadable, answers = readable ++ unreadable ∧
      (tally command taken report answers).samples = report.samples + readable.length ∧
        (∀ answer ∈ readable, ∃ records, reading command answer = .ok records) ∧
          ∀ answer ∈ unreadable, ¬ ∃ records, reading command answer = .ok records := by
  induction hsampling generalizing taken report with
  | finished => exact ⟨[], [], rfl, rfl, by simp, by simp⟩
  | @aborted count answer failure hread =>
      refine ⟨[], [answer], rfl, ?_, by simp, ?_⟩
      · simp [tally, hread]
      · simp [hread]
  | @taken count answer records rest hread hrest ih =>
      obtain ⟨readable, unreadable, rfl, hsamples, hreadable, hunreadable⟩ :=
        ih (taken + 1)
          { report with
            samples := report.samples + 1
            violations := report.violations ++ dropsIn taken records }
      refine ⟨answer :: readable, unreadable, rfl, ?_, ?_, hunreadable⟩
      · simp only [tally, hread, hsamples, List.length_cons]
        omega
      · exact List.forall_mem_cons.mpr ⟨⟨records, hread⟩, hreadable⟩

end DropWindow

namespace Tool

open Dialogue

/-! ## A window over the tools -/

/-- The device behind the tools, beside a generator of any kind. -/
def besideGenerator (t : Target) (start stop : Dialogue host (Answered Unit)) :
    (q : BenchRequest) → Dialogue host q.Answer
  | .startTraffic => start
  | .stopTraffic => stop
  | q => carry t {} q

/-- The generator that two commands drive is one such generator. -/
theorem carry_eq_besideGenerator (t : Target) (plan : TrafficPlan) :
    carry t plan =
      besideGenerator t (runTraffic plan.startCommand) (runTraffic plan.stopCommand) := by
  funext q
  cases q <;> rfl

/-- A pause, and the process that fetches the table. -/
def processExchanges
    (t : Target) (interval : Duration) (command : String) (process : Answered ProcessResult) :
    Transcript host :=
  [⟨.pause interval, ()⟩, ⟨.run (consoleCommand t command), process⟩]

variable {t : Target} {start stop : Dialogue host (Answered Unit)}

theorem exists_process_of_carriedOut
    {interval : Duration} {command : String} {answer : Answered CommandOutput}
    {transcript : Transcript host}
    (hcarried : CarriedOut (I := bench) (besideGenerator t start stop)
      (DropWindow.sampleExchanges interval command answer) transcript) :
    ∃ process, answer = consoleAnswer process ∧
      transcript = processExchanges t interval command process := by
  obtain ⟨pausing, fetching, rfl, hpausing, hfetching⟩ := hcarried.exists_of_pair
  have hpause : pausing = [⟨.pause interval, ()⟩] :=
    produces_question_iff.mp hpausing
  obtain ⟨process, hfetch, hanswer⟩ := runConsole_produces_iff.mp hfetching
  rw [hpause, hfetch]
  exact ⟨process, hanswer, rfl⟩

theorem exists_processes_of_carriedOut
    {interval : Duration} {command : String} {answers : List (Answered CommandOutput)}
    {transcript : Transcript host}
    (hcarried : CarriedOut (I := bench) (besideGenerator t start stop)
      (answers.flatMap (DropWindow.sampleExchanges interval command)) transcript) :
    ∃ processes : List (Answered ProcessResult), answers = processes.map consoleAnswer ∧
      transcript = processes.flatMap (processExchanges t interval command) := by
  induction answers generalizing transcript with
  | nil =>
      cases hcarried
      exact ⟨[], rfl, rfl⟩
  | cons answer answers ih =>
      rw [List.flatMap_cons] at hcarried
      obtain ⟨first, rest, rfl, hfirst, hrest⟩ := hcarried.exists_of_append
      obtain ⟨process, rfl, rfl⟩ := exists_process_of_carriedOut hfirst
      obtain ⟨processes, rfl, rfl⟩ := ih hrest
      exact ⟨process :: processes, rfl, rfl⟩

/-- The window as it is carried out on the host. -/
def windowOnHost
    (t : Target) (start stop : Dialogue host (Answered Unit)) (interval : Duration) (count : Nat)
    (linecard ingress : String) (now : Instant) :
    Dialogue host (Option (Outcome DropReport) × Instant) :=
  ((DropWindow.watch interval count linecard ingress).startingAt now).carryOut
    (besideGenerator t start stop)

/-- The host was asked for the counter and for traffic, then for one process per sample,
and then for the end of the traffic and the counter again.  The samples that count come
first. -/
structure SampledBy
    (t : Target) (start stop : Dialogue host (Answered Unit)) (interval : Duration) (count : Nat)
    (linecard ingress : String) (transcript : Transcript host) (report : DropReport)
    (counted uncounted : List (Answered ProcessResult)) : Prop where
  exchanges : ∃ opening closing stopped recounted,
    transcript = opening ++
      (counted ++ uncounted).flatMap (processExchanges t interval (TrapTable.command linecard)) ++
        closing ∧
    CarriedOut (I := bench) (besideGenerator t start stop)
      [⟨.ingressPackets ingress, .ok report.packetsBefore⟩, ⟨.startTraffic, .ok ()⟩] opening ∧
    CarriedOut (I := bench) (besideGenerator t start stop)
      [⟨.stopTraffic, stopped⟩, ⟨.ingressPackets ingress, recounted⟩] closing
  samples : report.samples = counted.length
  count_of_counted : ∀ process ∈ counted, IsCounted process
  not_count_of_uncounted : ∀ process ∈ uncounted, ¬ IsCounted process
  length_le : (counted ++ uncounted).length ≤ count

theorem exists_sampledBy_of_produces
    {interval : Duration} {count : Nat} {linecard ingress : String} {now ended : Instant}
    {transcript : Transcript host} {report : DropReport}
    (hproduces : (windowOnHost t start stop interval count linecard ingress now).Produces
      transcript (some (.ok report), ended)) :
    ∃ counted uncounted,
      SampledBy t start stop interval count linecard ingress transcript report
        counted uncounted := by
  obtain ⟨asked, hasked, hcarried⟩ := exists_of_produces_carryOut hproduces
  obtain ⟨outcome, houtcome, hrun⟩ := DropWindow.exists_windowRun_of_runs_watch hasked
  cases houtcome
  cases hrun with
  | @opened before answers stopped recounted hsampling =>
      -- Below, the window falls into the segments of its opening, its samples and its closing.
      obtain ⟨_, closing, rfl, hfront, hclosing⟩ := hcarried.exists_of_append
      obtain ⟨opening, sampling, rfl, hopening, hsamples⟩ := hfront.exists_of_append
      obtain ⟨processes, rfl, rfl⟩ := exists_processes_of_carriedOut hsamples
      obtain ⟨readable, unreadable, hsplit, hcount, hreadable, hunreadable⟩ :=
        hsampling.exists_readable 0 (DropWindow.openedReport ingress before)
      obtain ⟨counted, uncounted, rfl, rfl, rfl⟩ := List.map_eq_append_iff.mp hsplit
      have hbefore := (DropWindow.tally_frame (TrapTable.command linecard) 0
        (DropWindow.openedReport ingress before)
        ((counted ++ uncounted).map consoleAnswer)).2.1
      refine ⟨counted, uncounted, ⟨opening, closing, stopped, recounted, rfl, ?_, hclosing⟩,
        ?_, ?_, ?_, ?_⟩
      · have hreport : (DropWindow.windowReport linecard ingress before
            ((counted ++ uncounted).map consoleAnswer) stopped recounted).packetsBefore =
              before := hbefore
        rw [hreport]
        exact hopening
      · change (DropWindow.tally _ 0 _ _).samples = _
        rw [hcount, List.length_map]
        exact Nat.zero_add _
      · intro process hprocess
        exact exists_reading_consoleAnswer_iff.mp
          (hreadable _ (List.mem_map_of_mem hprocess))
      · intro process hprocess hcounted
        exact hunreadable _ (List.mem_map_of_mem hprocess)
          (exists_reading_consoleAnswer_iff.mpr hcounted)
      · have hlength := hsampling.length_le
        rwa [List.length_map] at hlength

/-- A window whose traffic two commands drive counts its samples like any other. -/
theorem exists_sampledBy_of_carry
    {plan : TrafficPlan} {interval : Duration} {count : Nat} {linecard ingress : String}
    {now ended : Instant} {transcript : Transcript host} {report : DropReport}
    (hproduces :
      (((DropWindow.watch interval count linecard ingress).startingAt now).carryOut
        (carry t plan)).Produces transcript (some (.ok report), ended)) :
    ∃ counted uncounted,
      SampledBy t (runTraffic plan.startCommand) (runTraffic plan.stopCommand) interval count
        linecard ingress transcript report counted uncounted := by
  rw [carry_eq_besideGenerator] at hproduces
  exact exists_sampledBy_of_produces hproduces

/-- Of the processes that fail, a console command tells of those that wrote something, and
a window counts the samples of those that wrote nothing. -/
theorem failure_told_unless_silent
    {σ : Type} (r : Responder host σ) (state : σ) (t : Target) :
    (∀ command,
      TellsFailure ((runConsole t command).run r state).1 ↔
        HasFailed (r.reply (.run (consoleCommand t command)) state).1 ∧
          ¬ IsSilent (r.reply (.run (consoleCommand t command)) state).1) ∧
    ∀ start stop interval count linecard ingress now report,
      let window := windowOnHost t start stop interval count linecard ingress now
      (window.run r state).1.1 = some (.ok report) →
        ∃ counted uncounted,
          SampledBy t start stop interval count linecard ingress (window.transcript r state)
            report counted uncounted := by
  constructor
  · intro command
    rw [runConsole_eq]
    exact tellsFailure_consoleAnswer_iff
  · intro start stop interval count linecard ingress now report window hreport
    have hproduces := produces_transcript r window state
    have hvalue : (window.run r state).1 = (some (.ok report), (window.run r state).1.2) := by
      rw [← hreport]
    rw [hvalue] at hproduces
    exact exists_sampledBy_of_produces hproduces

/-! ## A silent failure -/

theorem readIngressPackets_produces
    (t : Target) (interface place : String) {output : String} {n : Nat}
    (hdecode : Update.decode (interfacePath interface "counters/in-pkts") output =
      .ok [⟨place, .number (.natural n)⟩]) :
    (readIngressPackets t interface).Produces
      [⟨.run (getCommand t (interfacePath interface "counters/in-pkts")), .ok ⟨0, output, ""⟩⟩]
      (.ok n) := by
  refine .ask ?_
  change Produces (((Dialogue.done (Update.decode _ output)).bind _).bind _) _ _
  rw [hdecode]
  exact .done _

/-- With a counter that grows, a window passes whose only sample was a process that failed
in silence. -/
theorem silent_failure_counted :
    (∃ transcript report ended,
      (windowOnHost {} (.done (.ok ())) (.done (.ok ())) ⟨0⟩ 1 "FPC0" "et-0/0/0" ⟨0⟩).Produces
        transcript (some (.ok report), ended) ∧
      ⟨.run (consoleCommand {} (TrapTable.command "FPC0")), .ok ⟨255, "", ""⟩⟩ ∈ transcript ∧
        report.samples = 1 ∧ report.result = .ok ()) ∧
    ¬ ∀ t command process answer,
      (runConsole t command).Produces
        [⟨.run (consoleCommand t command), process⟩] answer →
          HasFailed process → TellsFailure answer := by
  have hsilent : (runConsole {} (TrapTable.command "FPC0")).Produces
      [⟨.run (consoleCommand {} (TrapTable.command "FPC0")), .ok ⟨255, "", ""⟩⟩]
      (.ok (.failed "")) :=
    runConsole_produces_iff.mpr ⟨.ok ⟨255, "", ""⟩, rfl, rfl⟩
  have hone : ∀ path, Update.decode path
      "[\x7b\"updates\":[\x7b\"Path\":\"p\",\"values\":\x7b\"v\":1\x7d\x7d]\x7d]" =
        .ok [⟨"p", .number (.natural 1)⟩] := by
    intro path
    cbv
  have htwo : ∀ path, Update.decode path
      "[\x7b\"updates\":[\x7b\"Path\":\"p\",\"values\":\x7b\"v\":2\x7d\x7d]\x7d]" =
        .ok [⟨"p", .number (.natural 2)⟩] := by
    intro path
    cbv
  constructor
  · have hasked : ((DropWindow.watch ⟨0⟩ 1 "FPC0" "et-0/0/0").startingAt ⟨0⟩).Produces
        (DropWindow.windowExchanges ⟨0⟩ "FPC0" "et-0/0/0" 1 [.ok (.failed "")]
          (.ok ()) (.ok 2))
        (some (.ok (DropWindow.windowReport "FPC0" "et-0/0/0" 1 [.ok (.failed "")]
          (.ok ()) (.ok 2))), ⟨0⟩) :=
      .ask (.ask (.ask (.ask (.ask (.ask (.done _))))))
    obtain ⟨transcript, hcarried, hmem⟩ : ∃ transcript,
        CarriedOut (I := bench) (besideGenerator {} (.done (.ok ())) (.done (.ok ())))
          (DropWindow.windowExchanges ⟨0⟩ "FPC0" "et-0/0/0" 1 [.ok (.failed "")]
            (.ok ()) (.ok 2)) transcript ∧
        ⟨.run (consoleCommand {} (TrapTable.command "FPC0")), .ok ⟨255, "", ""⟩⟩ ∈
          transcript := by
      refine ⟨_, .cons (readIngressPackets_produces {} "et-0/0/0" "p" (hone _))
        (.cons (.done _) (.cons (.ask (.done _)) (.cons hsilent (.cons (.done _)
          (.cons (readIngressPackets_produces {} "et-0/0/0" "p" (htwo _)) .nil))))), ?_⟩
      simp
    refine ⟨transcript, _, _, hasked.carryOut hcarried, hmem, rfl, ?_⟩
    refine DropWindow.windowReport_result_eq_ok_iff.mpr ⟨?_, rfl, 2, rfl, by decide⟩
    intro answer hanswer
    rw [List.mem_singleton.mp hanswer]
    exact ⟨"", [], rfl, rfl, by simp⟩
  · intro htold
    have hfailed : (255 : Int) ≠ 0 := by decide
    have htells := htold _ _ _ _ hsilent hfailed
    cases htells

end Tool

end CardReboot
