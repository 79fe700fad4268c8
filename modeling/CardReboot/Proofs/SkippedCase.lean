import CardReboot.CommandLine
import CardReboot.Proofs.RebootSafety
import CardReboot.Proofs.SteadyBench

/-!
# Skipped cases

A case is skipped before it has asked for more than the inventory of its cards, with one
exception: a line card whose packets have to be watched is rebooted before it shows that
there is no generator.  A configuration that passes its check configures a generator
wherever packets have to be watched.  So the cases of a command line are skipped before
their reboot or not at all.
-/

namespace CardReboot

/-! ## The skips of a step -/

/-- Leaves the case by a failure, or by a skip for such a reason. -/
def Exit.SkipsFor (reasons : String → Prop) : Exit → Prop
  | .skip reason => reasons reason
  | .fail _ => True

namespace Step

variable {α β : Type} {reasons : String → Prop}

abbrev SkipsOnly (reasons : String → Prop) (p : Step α) : Prop :=
  p.Guarantees (fun _ => True) (Exit.SkipsFor reasons) fun _ => True

theorem SkipsOnly.bind
    {p : Step α} {f : α → Step β} (hp : p.SkipsOnly reasons)
    (hf : ∀ a, (f a).SkipsOnly reasons) : (p >>= f).SkipsOnly reasons :=
  guarantees_bind hp fun a _ => hf a

theorem settles_skipsFor (outcome : Outcome α) :
    Settles (Exit.SkipsFor reasons) (fun _ => True) outcome := by
  cases outcome <;> exact trivial

theorem skipsOnly_timed (t : Timed bench (Outcome α)) : (timed t).SkipsOnly reasons := by
  apply guarantees_timed
  intro start transcript result stop _
  exact ⟨fun _ _ => trivial, fun outcome _ => settles_skipsFor outcome⟩

theorem skipsOnly_ofOutcome (outcome : Outcome α) : (ofOutcome outcome).SkipsOnly reasons :=
  guarantees_ofOutcome (settles_skipsFor outcome)

end Step

/-! ## The skips of a selection -/

namespace Inventory

/-- The skips of a selection are about the cards that were found. -/
theorem skip_ne_of_pickRemovable
    {candidates : Inventory} {type : ComponentType} {expected : ExpectedCount}
    {pinned : Option String} {reason : String}
    (hpick : candidates.pickRemovable type expected pinned = .ok (.skip reason)) :
    reason ≠ "traffic-drop check needs a traffic generator" := by
  unfold pickRemovable at hpick
  split at hpick
  · cases hpick
  · split at hpick
    · cases hpick
    · cases hpick
      cases type <;> decide

theorem skip_ne_of_selectControllers
    {inventory : Inventory} {expected : ExpectedCount} {reason : String}
    (hselect : inventory.selectControllers expected = .ok (.skip reason)) :
    reason ≠ "traffic-drop check needs a traffic generator" := by
  unfold selectControllers at hselect
  obtain ⟨_, -, hcounted⟩ := exists_of_bind_eq_ok hselect
  by_cases hfew : (inventory.ofType .controllerCard).length < 2
  · rw [if_pos hfew] at hcounted
    cases hcounted
    intro hsame
    have hfirst := congrArg (fun text => text.toList.head?) hsame
    simp at hfirst
  · rw [if_neg hfew] at hcounted
    obtain ⟨standby, -, hactive⟩ := exists_of_bind_eq_ok hcounted
    obtain ⟨active, -, hpair⟩ := exists_of_bind_eq_ok hactive
    cases hpair

theorem skip_ne_of_selectLinecard
    {inventory : Inventory} {expected : ExpectedCount} {pinned : Option String}
    {reason : String}
    (hselect : inventory.selectLinecard expected pinned = .ok (.skip reason)) :
    reason ≠ "traffic-drop check needs a traffic generator" := by
  unfold selectLinecard at hselect
  obtain ⟨_, -, hcounted⟩ := exists_of_bind_eq_ok hselect
  by_cases hempty : (inventory.presentLinecards expected).isEmpty = true
  · rw [if_pos hempty] at hcounted
    cases hcounted
    decide
  · rw [if_neg hempty] at hcounted
    exact skip_ne_of_pickRemovable hcounted

theorem skip_ne_of_selectFabric
    {inventory : Inventory} {expected : ExpectedCount} {reason : String}
    (hselect : inventory.selectFabric expected = .ok (.skip reason)) :
    reason ≠ "traffic-drop check needs a traffic generator" := by
  unfold selectFabric at hselect
  obtain ⟨_, -, hcounted⟩ := exists_of_bind_eq_ok hselect
  exact skip_ne_of_pickRemovable hcounted

theorem IsReadIn.reboots_eq_nil
    {inventory : Inventory} {type : ComponentType} {transcript : Transcript bench}
    (hread : inventory.IsReadIn type transcript) : Transcript.reboots transcript = [] := by
  obtain ⟨readings, rfl, -⟩ := hread
  have hstates : Transcript.AsksOnly (I := bench) BenchRequest.IsQuiet
      (readings.map fun reading => ⟨.componentState reading.1, .ok reading.2⟩) := by
    intro exchange hmem
    obtain ⟨reading, -, rfl⟩ := List.mem_map.mp hmem
    exact trivial
  exact Transcript.reboots_eq_nil (Transcript.asksOnly_cons.mpr ⟨trivial, hstates⟩)
    fun _ => id

end Inventory

def RebootCase.cardType : RebootCase → ComponentType
  | .standbyController => .controllerCard
  | .linecard => .linecard
  | .fabric => .fabric

namespace Campaign

variable {c : Campaign} {case : RebootCase}

/-! ## The skips of a case -/

/-- How a case comes to be skipped, with what it has asked until then. -/
inductive SkipRun (c : Campaign) : RebootCase → String → Transcript bench → Prop
  | unsupported
      (hunsupported : c.configuration.deviations.fabricRebootUnsupported = true) :
      SkipRun c .fabric "fabric component reboot is unsupported on this platform" []
  | unsuited
      {case : RebootCase} {reason : String} {inventory : Inventory}
      {reading : Transcript bench} (hread : inventory.IsReadIn case.cardType reading)
      (hreason : reason ≠ "traffic-drop check needs a traffic generator") :
      SkipRun c case reason reading
  | unwatched
      {card : String} {pre : Snapshot} {before after : Transcript bench}
      (hvendor : c.configuration.vendor = .juniper) (hgenerator : ¬ c.hasGenerator = true)
      (hprepared : c.Prepared .linecard card pre before) :
      SkipRun c .linecard "traffic-drop check needs a traffic generator"
        (before ++ ⟨.reboot (c.target card), .ok ()⟩ :: after)

theorem skipRun_of_runs_selection
    {α : Type} (case : RebootCase) {outcome : Outcome (Selection α)}
    {f : α → Step (String × Snapshot)} {start stop : Instant}
    {transcript reading : Transcript bench} {inventory : Inventory}
    {reason : String} (hread : inventory.IsReadIn case.cardType reading)
    (hreason : outcome = .ok (.skip reason) →
      reason ≠ "traffic-drop check needs a traffic generator")
    (hrest : ∀ choice start transcript stop,
      ¬ (f choice).Runs start transcript (some (.error (.skip reason))) stop)
    (hrun : (Step.ofSelection outcome >>= f).Runs start transcript
      (some (.error (.skip reason))) stop) :
    c.SkipRun case reason (reading ++ transcript) := by
  rcases Step.runs_bind_error_iff.mp hrun with ⟨_, _, choice, _, -, -, hlater⟩ | hselect
  · exact absurd hlater (hrest choice _ _ _)
  · obtain ⟨rfl, hend, -⟩ := Step.runs_ofSelection_iff.mp hselect
    rw [List.append_nil]
    rcases outcome with failure | choice | found <;> cases hend
    exact .unsuited hread (hreason rfl)

theorem not_runs_captureBefore_skip
    {scope : InterfaceScope} {card reason : String} {start stop : Instant}
    {transcript : Transcript bench} :
    ¬ (Step.asked (captureBefore scope) >>= fun pre => pure (card, pre)).Runs start
      transcript (some (.error (.skip reason))) stop := by
  intro hrun
  rcases Step.runs_bind_error_iff.mp hrun with ⟨_, _, pre, _, -, -, hlater⟩ | hcapture
  · obtain ⟨-, hend, -⟩ := Step.runs_pure_iff.mp hlater
    cases hend
  · exact Step.not_runs_asked_skip hcapture

theorem skipRun_of_runs_prepare
    {start stop : Instant} {transcript : Transcript bench} {reason : String}
    (hrun : (c.prepare case).Runs start transcript (some (.error (.skip reason))) stop) :
    c.SkipRun case reason transcript := by
  cases case with
  | standbyController =>
      rw [prepare] at hrun
      rcases Step.runs_bind_error_iff.mp hrun with
        ⟨reading, _, inventory, _, rfl, hfetch, hselect⟩ | hfetch
      · refine skipRun_of_runs_selection .standbyController
          (isReadIn_of_runs_fetch hfetch) Inventory.skip_ne_of_selectControllers ?_ hselect
        intro pair start transcript stop hlater
        obtain ⟨-, hend, -⟩ := Step.runs_pure_iff.mp hlater
        cases hend
      · exact absurd hfetch Step.not_runs_asked_skip
  | linecard =>
      rw [prepare] at hrun
      rcases Step.runs_bind_error_iff.mp hrun with
        ⟨reading, _, inventory, _, rfl, hfetch, hpin⟩ | hfetch
      · rcases Step.runs_bind_error_iff.mp hpin with
          ⟨_, picking, pinned, _, rfl, hpinned, hselect⟩ | hpinned
        · obtain ⟨rfl, -, -⟩ := Step.runs_ofOutcome_ok_iff.mp hpinned
          exact skipRun_of_runs_selection .linecard (isReadIn_of_runs_fetch hfetch)
            Inventory.skip_ne_of_selectLinecard
            (fun card start transcript stop => not_runs_captureBefore_skip) hselect
        · obtain ⟨-, hend, -⟩ := Step.runs_ofOutcome_iff.mp hpinned
          cases houtcome : c.pinnedLinecard <;> rw [houtcome] at hend <;> cases hend
      · exact absurd hfetch Step.not_runs_asked_skip
  | fabric =>
      rw [prepare] at hrun
      split at hrun
      · next hunsupported =>
          obtain ⟨rfl, hend, -⟩ := Step.runs_skip_iff.mp hrun
          cases hend
          exact .unsupported hunsupported
      · rcases Step.runs_bind_error_iff.mp hrun with
          ⟨reading, _, inventory, _, rfl, hfetch, hselect⟩ | hfetch
        · exact skipRun_of_runs_selection .fabric (isReadIn_of_runs_fetch hfetch)
            Inventory.skip_ne_of_selectFabric
            (fun card start transcript stop => not_runs_captureBefore_skip) hselect
        · exact absurd hfetch Step.not_runs_asked_skip

/-- After the reboot only a line card whose packets cannot be watched is skipped. -/
def SkipsUnwatched (c : Campaign) (case : RebootCase) (reason : String) : Prop :=
  case = .linecard ∧ c.configuration.vendor = .juniper ∧ ¬ c.hasGenerator = true ∧
    reason = "traffic-drop check needs a traffic generator"

theorem skipsOnly_checkDrops (card : String) {reasons : String → Prop} :
    (c.checkDrops card).SkipsOnly reasons := by
  unfold checkDrops
  apply (Step.skipsOnly_ofOutcome _).bind
  intro ingress
  apply (Step.skipsOnly_timed _).bind
  intro report
  exact Step.skipsOnly_ofOutcome _

theorem skipsOnly_finish (card : String) :
    (c.finish card).SkipsOnly (c.SkipsUnwatched .linecard) := by
  unfold finish
  by_cases hvendor : c.configuration.vendor = .juniper
  · rw [if_pos hvendor]
    by_cases hgenerator : c.hasGenerator = true
    · rw [if_pos hgenerator]
      exact skipsOnly_checkDrops card
    · rw [if_neg hgenerator]
      exact Step.guarantees_skip ⟨rfl, hvendor, hgenerator, rfl⟩
  · rw [if_neg hvendor]
    exact Step.guarantees_pure trivial

theorem skipsOnly_recover (card : String) (pre : Snapshot) (case : RebootCase) :
    (c.recover card pre case).SkipsOnly (c.SkipsUnwatched case) := by
  cases case with
  | standbyController =>
      rw [recover]
      apply Step.SkipsOnly.bind (Step.guarantees_pause trivial)
      intro settled
      apply (Step.skipsOnly_timed _).bind
      intro state
      exact Step.guarantees_pure trivial
  | linecard =>
      rw [recover]
      apply Step.SkipsOnly.bind (Step.guarantees_pause trivial)
      intro settled
      apply (Step.skipsOnly_timed _).bind
      intro poll
      apply (Step.skipsOnly_timed _).bind
      intro state
      apply (Step.skipsOnly_timed _).bind
      intro post
      exact skipsOnly_finish card
  | fabric =>
      rw [recover]
      apply (Step.skipsOnly_timed _).bind
      intro poll
      apply (Step.skipsOnly_timed _).bind
      intro state
      apply (Step.skipsOnly_timed _).bind
      intro post
      exact Step.guarantees_pure trivial

theorem skipRun_of_runs_steps
    {start stop : Instant} {transcript : Transcript bench} {reason : String}
    (hrun : (c.steps case).Runs start transcript (some (.error (.skip reason))) stop) :
    c.SkipRun case reason transcript := by
  rw [steps_eq] at hrun
  rcases Step.runs_bind_error_iff.mp hrun with
    ⟨before, _, found, _, rfl, hprepare, hrest⟩ | hprepare
  · rcases Step.runs_bind_error_iff.mp hrest with
      ⟨_, after, _, _, rfl, hissue, hrecover⟩ | hissue
    · obtain ⟨answer, rfl, hanswer⟩ := exists_of_runs_issueReboot hissue
      cases answer with
      | error e => cases hanswer
      | ok _ =>
          have hskips := (skipsOnly_recover found.1 found.2 case _ _ _ _ hrecover).2.1
          obtain ⟨rfl, hvendor, hgenerator, rfl⟩ := hskips _ rfl
          exact .unwatched hvendor hgenerator (prepared_of_runs hprepare)
    · exact absurd hissue Step.not_runs_asked_skip
  · exact skipRun_of_runs_prepare hprepare

theorem exists_steps_of_runs_runCase
    {start stop : Instant} {transcript : Transcript bench} {report : CaseReport}
    (hrun : (c.runCase case).Runs start transcript (some report) stop) :
    ∃ result, (c.steps case).Runs start transcript (some result) stop ∧
      report.verdict = verdict result := by
  unfold runCase at hrun
  obtain ⟨before, after, result, _, rfl, hsteps, hreport⟩ :=
    Timed.runs_bind_some_iff.mp (Timed.runs_now_bind_iff.mp hrun)
  have hend := Timed.runs_now_bind_iff.mp hreport
  obtain ⟨rfl, hfound, rfl⟩ := Timed.runs_pure_iff.mp hend
  cases hfound
  rw [List.append_nil]
  exact ⟨result, hsteps, rfl⟩

theorem skipRun_of_runs_runCase
    {start stop : Instant} {transcript : Transcript bench} {report : CaseReport}
    {reason : String} (hrun : (c.runCase case).Runs start transcript (some report) stop)
    (hskipped : report.verdict = .skipped reason) : c.SkipRun case reason transcript := by
  obtain ⟨result, hsteps, hverdict⟩ := exists_steps_of_runs_runCase hrun
  rw [hskipped] at hverdict
  rcases result with (found | failure) | done <;> cases hverdict
  exact skipRun_of_runs_steps hsteps

/-- Where packets are watched whenever they have to be, a case that is skipped has sent
no reboot. -/
theorem SkipRun.unrebooted
    {reason : String} {transcript : Transcript bench} (hrun : c.SkipRun case reason transcript)
    (hwatched : c.configuration.vendor = .juniper → c.hasGenerator = true) :
    Transcript.reboots transcript = [] ∧
      reason ≠ "traffic-drop check needs a traffic generator" := by
  cases hrun with
  | unsupported hunsupported => exact ⟨rfl, by decide⟩
  | unsuited hread hreason => exact ⟨hread.reboots_eq_nil, hreason⟩
  | unwatched hvendor hgenerator hprepared => exact absurd (hwatched hvendor) hgenerator

/-! ## The cases of a command line -/

/-- The report of a case that ended, and what the case has asked. -/
structure CaseRecord where
  report : CaseReport
  exchanges : Transcript bench

/-- The cases that end when they are run in order and a device answers, each with what
it has asked itself. -/
def records
    {σ : Type} (c : Campaign) (device : Responder bench σ) :
    List RebootCase → Instant → σ → List CaseRecord
  | [], _, _ => []
  | case :: rest, start, state =>
      match (c.runCase case).answeredBy device start state with
      | ((some report, stop), later) =>
          ⟨report, (c.runCase case).exchangesWith device start state⟩ ::
            c.records device rest stop later
      | ((none, _), _) => []

section Records

variable {σ : Type} (c : Campaign) (device : Responder bench σ)

/-- The reports of a run, and everything that it asks, are those of its cases. -/
theorem runCases_eq_records
    {cases : List RebootCase} {start : Instant} {state : σ} {reports : List CaseReport}
    (hreports : ((c.runCases cases).answeredBy device start state).1.1 = some reports) :
    reports = (c.records device cases start state).map CaseRecord.report ∧
      (c.runCases cases).exchangesWith device start state =
        (c.records device cases start state).flatMap CaseRecord.exchanges := by
  induction cases generalizing start state reports with
  | nil =>
      cases hreports
      exact ⟨rfl, rfl⟩
  | cons case rest ih =>
      rw [runCases] at hreports ⊢
      rw [records]
      rcases hcase : (c.runCase case).answeredBy device start state with
        ⟨⟨_ | report, stop⟩, later⟩
      · rw [Timed.answeredBy_bind_of_none device start state hcase] at hreports
        cases hreports
      · rw [Timed.answeredBy_bind_of_some device start state hcase] at hreports
        rw [Timed.exchangesWith_bind_of_some device start state hcase]
        rcases hrest : (c.runCases rest).answeredBy device stop later with
          ⟨⟨_ | others, last⟩, final⟩
        · rw [Timed.answeredBy_bind_of_none device stop later hrest] at hreports
          cases hreports
        · rw [Timed.answeredBy_bind_of_some device stop later hrest] at hreports
          cases hreports
          obtain ⟨hothers, hexchanges⟩ := ih (congrArg (fun found => found.1.1) hrest)
          rw [Timed.exchangesWith_bind_of_some device stop later hrest, hexchanges]
          constructor
          · rw [List.map_cons, ← hothers]
          · rw [List.flatMap_cons, Timed.exchangesWith_pure, List.append_nil]

theorem skipRun_of_mem_records
    {cases : List RebootCase} {start : Instant} {state : σ} {found : CaseRecord}
    {reason : String} (hmem : found ∈ c.records device cases start state)
    (hskipped : found.report.verdict = .skipped reason) :
    ∃ case ∈ cases, c.SkipRun case reason found.exchanges := by
  induction cases generalizing start state with
  | nil => cases hmem
  | cons case rest ih =>
      have hrun := Timed.runs_answeredBy (c.runCase case) device start state
      rw [records] at hmem
      rcases hcase : (c.runCase case).answeredBy device start state with
        ⟨⟨_ | report, stop⟩, later⟩
      · rw [hcase] at hmem
        cases hmem
      · rw [hcase] at hmem hrun
        rcases List.mem_cons.mp hmem with rfl | hlater
        · exact ⟨case, List.mem_cons_self, skipRun_of_runs_runCase hrun hskipped⟩
        · obtain ⟨other, hother, hskip⟩ := ih hlater
          exact ⟨other, List.mem_cons_of_mem _ hother, hskip⟩

end Records

end Campaign

/-- A configuration that passes its check has a generator where packets have to be
watched. -/
theorem Configuration.hasGenerator_campaign
    {configuration : Configuration} (hcheck : configuration.check = .ok ()) (patience : Nat)
    (hvendor : configuration.vendor = .juniper) :
    (configuration.campaign patience).hasGenerator = true := by
  unfold check at hcheck
  rw [campaign, Tool.hasGenerator, Option.isSome_iff_ne_none]
  intro hnone
  simp only [hvendor, hnone, and_self, if_true] at hcheck
  split_ifs at hcheck

/-- The numbers of cards are no part of the check. -/
theorem Options.configuration_eq
    (options : Options) {loaded : Configuration} (hcheck : loaded.check = .ok ()) :
    options.configuration (.ok loaded) =
      .ok { loaded with topology := options.override loaded.topology } := by
  have hoverridden :
      { loaded with topology := options.override loaded.topology }.check = .ok () := hcheck
  change ({ loaded with topology := options.override loaded.topology }.check >>= fun _ => _) = _
  rw [hoverridden]
  rfl

namespace Campaign

/-- Whatever numbers of cards a command line declares over a configuration that passes
its check, and whatever the device answers, a case that is skipped has sent no reboot. -/
theorem skipped_cases_unrebooted
    {σ : Type} (loaded : Configuration) (hcheck : loaded.check = .ok ()) (options : Options)
    (patience : Nat) (device : Responder bench σ) (cases : List RebootCase) (start : Instant)
    (state : σ) :
    ∃ configuration, options.configuration (.ok loaded) = .ok configuration ∧
      configuration.check = .ok () ∧
      let c := configuration.campaign patience
      (∀ reports, ((c.runCases cases).answeredBy device start state).1.1 = some reports →
        reports = (c.records device cases start state).map CaseRecord.report ∧
          (c.runCases cases).exchangesWith device start state =
            (c.records device cases start state).flatMap CaseRecord.exchanges) ∧
      ∀ found ∈ c.records device cases start state, ∀ reason,
        found.report.verdict = .skipped reason →
          Transcript.reboots found.exchanges = [] ∧
            reason ≠ "traffic-drop check needs a traffic generator" := by
  refine ⟨_, options.configuration_eq hcheck, hcheck, ?_⟩
  intro c
  refine ⟨fun reports hreports => c.runCases_eq_records device hreports, ?_⟩
  intro found hmem reason hskipped
  obtain ⟨case, -, hskip⟩ := c.skipRun_of_mem_records device hmem hskipped
  exact hskip.unrebooted (Configuration.hasGenerator_campaign hcheck patience)

/-- A vendor whose packets are watched, on a chassis with nothing to take out. -/
def fixedConfiguration : Configuration where
  vendor := .juniper
  topology := { ports := ["et-0/0/0"] }
  traffic := { startCommand := some "start" }

theorem fixedChassis_unrebooted :
    fixedConfiguration.check = .ok () ∧
      ∃ configuration,
        ({ controllerCards := some 1 } : Options).configuration (.ok fixedConfiguration) =
            .ok configuration ∧
          let records := (configuration.campaign 0).records Rehearsal.responder RebootCase.all
            ⟨0⟩ (.of .fixedChassis none {})
          records.map (fun found => found.report.verdict) =
              [.skipped "Not enough controller cards for the test: got 1, want at least 2",
                .skipped "Not enough linecards for the test: got 0, want > 0",
                .skipped "No removable FABRIC component found for the testing"] ∧
            ∀ found ∈ records, Transcript.reboots found.exchanges = [] := by
  have hcheck : fixedConfiguration.check = .ok () := rfl
  obtain ⟨configuration, hconfiguration, -, -, hskipped⟩ :=
    skipped_cases_unrebooted fixedConfiguration hcheck { controllerCards := some 1 } 0
      Rehearsal.responder RebootCase.all ⟨0⟩ (.of .fixedChassis none {})
  have hverdicts :
      ((configuration.campaign 0).records Rehearsal.responder RebootCase.all
        ⟨0⟩ (.of .fixedChassis none {})).map (fun found => found.report.verdict) =
          [.skipped "Not enough controller cards for the test: got 1, want at least 2",
            .skipped "Not enough linecards for the test: got 0, want > 0",
            .skipped "No removable FABRIC component found for the testing"] := by
    cases hconfiguration
    rfl
  refine ⟨hcheck, configuration, hconfiguration, hverdicts, ?_⟩
  intro found hmem
  have hverdict := List.mem_map_of_mem (f := fun found => found.report.verdict) hmem
  rw [hverdicts] at hverdict
  simp only [List.mem_cons, List.not_mem_nil, or_false] at hverdict
  rcases hverdict with hreason | hreason | hreason
  · exact (hskipped found hmem _ hreason).1
  · exact (hskipped found hmem _ hreason).1
  · exact (hskipped found hmem _ hreason).1

end Campaign

end CardReboot
