import CardReboot.Proofs.RecoveryVerdict
import CardReboot.Proofs.WaitTime

/-!
# How long a case takes

A case waits for the deadlines that it finds on the clock and for nothing else.  A
poll of the reboot can go past its deadline by less than one pause, all other waits
end at theirs.  So each case ends whatever the device answers, within the sum of what
its parts may take.
-/

namespace CardReboot

namespace Campaign

variable (c : Campaign)

/-! ## What a case may take -/

/-- From this instant on the deadline of the state is on the clock, and that of the
interfaces from wherever the state is found. -/
def StateFits (boot recovery : Duration) (now : Instant) : Prop :=
  now.HasDeadline boot ∧ ∀ waited, waited ≤ boot → (now.after waited).HasDeadline recovery

/-- After a reboot issued at this instant the deadline of the poll is on the clock, and
the others from wherever the poll finds the reboot over. -/
def WaitsFit (boot recovery : Duration) (issued : Instant) : Prop :=
  issued.HasDeadline boot ∧
    ∀ polled, StatusPoll.CanFindOver boot polled → StateFits boot recovery (issued.after polled)

/-- Every deadline of a case that begins at `start` is on the clock. -/
def DeadlinesFit (start : Instant) : RebootCase → Prop
  | .standbyController =>
      let timing := c.configuration.timing
      (start.after (.ofSeconds timing.controllerSettle)).HasDeadline
        (.ofSeconds timing.controllerBoot)
  | .linecard =>
      let timing := c.configuration.timing
      WaitsFit (.ofSeconds timing.linecardBoot) (.ofSeconds timing.linecardRecovery)
        (start.after (.ofSeconds timing.linecardSettle))
  | .fabric =>
      let timing := c.configuration.timing
      WaitsFit (.ofSeconds timing.fabricBoot) (.ofSeconds timing.fabricRecovery) start

/-- What the watch for dropped packets may take. -/
def windowLimit : Duration :=
  let plan := c.configuration.traffic
  if c.configuration.vendor = .juniper then
    (Duration.ofSeconds plan.sampleInterval).times plan.samples
  else .zero

/-- What a case may take. -/
def timeLimit : RebootCase → Duration
  | .standbyController =>
      let timing := c.configuration.timing
      .ofSeconds timing.controllerSettle + .ofSeconds timing.controllerBoot
  | .linecard =>
      let timing := c.configuration.timing
      let boot := Duration.ofSeconds timing.linecardBoot
      .ofSeconds timing.linecardSettle + StatusPoll.longest boot + boot +
        .ofSeconds timing.linecardRecovery + c.windowLimit
  | .fabric =>
      let timing := c.configuration.timing
      let boot := Duration.ofSeconds timing.fabricBoot
      StatusPoll.longest boot + boot + .ofSeconds timing.fabricRecovery

theorem waitsFit_of_hasDeadline
    {boot recovery : Duration} {issued : Instant}
    (hlast : issued.HasDeadline (StatusPoll.longest boot + boot + recovery)) :
    WaitsFit boot recovery issued := by
  have hboot : boot ≤ StatusPoll.longest boot := (StatusPoll.isLeast_pauses boot).1.2
  rw [Duration.le_def] at hboot
  refine ⟨hlast.mono ?_, ?_⟩
  · simp only [Instant.after, Duration.nanos_add]
    omega
  · rintro polled ⟨-, -, -, hbefore⟩
    rw [Duration.le_def] at hbefore
    refine ⟨hlast.mono ?_, ?_⟩
    · simp only [Instant.after, Duration.nanos_add]
      omega
    · intro waited hwaited
      rw [Duration.le_def] at hwaited
      apply hlast.mono
      simp only [Instant.after, Duration.nanos_add]
      omega

theorem deadlinesFit_of_hasDeadline
    {start : Instant} {case : RebootCase} (hlast : start.HasDeadline (c.timeLimit case)) :
    c.DeadlinesFit start case := by
  cases case with
  | standbyController =>
      apply hlast.mono
      simp only [timeLimit, Instant.after, Duration.nanos_add]
      omega
  | linecard =>
      apply waitsFit_of_hasDeadline
      apply hlast.mono
      simp only [timeLimit, Instant.after, Duration.nanos_add]
      omega
  | fabric => exact waitsFit_of_hasDeadline hlast

/-! ## The preparation -/

theorem isInstant_prepare (case : RebootCase) : (c.prepare case).IsInstant := by
  cases case with
  | standbyController =>
      rw [prepare]
      apply (Step.isInstant_asked _).bind
      intro inventory
      apply (Step.isInstant_ofSelection _).bind
      intro pair
      exact Step.isInstant_pure _
  | linecard =>
      rw [prepare]
      apply (Step.isInstant_asked _).bind
      intro inventory
      apply (Step.isInstant_ofOutcome _).bind
      intro pinned
      apply (Step.isInstant_ofSelection _).bind
      intro card
      apply (Step.isInstant_asked _).bind
      intro pre
      exact Step.isInstant_pure _
  | fabric =>
      rw [prepare]
      split
      · exact Step.isInstant_skip _
      · apply (Step.isInstant_asked _).bind
        intro inventory
        apply (Step.isInstant_ofSelection _).bind
        intro card
        apply (Step.isInstant_asked _).bind
        intro pre
        exact Step.isInstant_pure _

/-! ## The recovery -/

theorem takes_awaitReboot (target : RebootTarget) (limit : Duration) :
    (Step.timed (c.awaitReboot target limit)).Takes (·.HasDeadline limit)
      (StatusPoll.longest limit) (StatusPoll.CanFindOver limit) := by
  apply Step.takes_timed
  unfold awaitReboot
  refine Timed.Takes.bind_pure ?_ fun _ => rfl
  apply (StatusPoll.takes_poll c.patience limit _).mono
  · exact fun _ hdeadline => hdeadline
  · intro report elapsed hpoll
    refine ⟨hpoll.1, ?_⟩
    intro found hfound
    exact hpoll.2 (PollReport.state_eq_of_result_eq_ok hfound)

variable {c}

theorem pollInterval_pos (hcheck : c.configuration.check = .ok ()) :
    0 < (Duration.ofSeconds c.configuration.timing.pollInterval).nanos := by
  have hinterval : c.configuration.timing.pollInterval ≠ 0 := by
    intro hzero
    simp [Configuration.check, hzero] at hcheck
    split at hcheck <;> cases hcheck
  simp only [Duration.ofSeconds, Duration.nanosPerSecond]
  omega

theorem endsWithin_awaitState
    (hcheck : c.configuration.check = .ok ()) (what card : String) (limit : Duration)
    (accept : ComponentState → Bool) :
    (Step.timed (c.awaitState what card limit accept)).EndsWithin (·.HasDeadline limit)
      limit := by
  apply Step.endsWithin_timed
  unfold awaitState
  exact Wait.takes_await ⟨_, _, limit⟩ (pollInterval_pos hcheck) c.patience _ _ _

theorem endsWithin_awaitInterfaces
    (hcheck : c.configuration.check = .ok ()) (limit : Duration) (pre : Snapshot) :
    (Step.timed (c.awaitInterfaces limit pre)).EndsWithin (·.HasDeadline limit) limit := by
  apply Step.endsWithin_timed
  unfold awaitInterfaces
  exact Recovery.takes_await c.patience (pollInterval_pos hcheck) limit pre c.scope

/-- The waits of a line card and of a fabric card, and then the last part of the case. -/
theorem endsWithin_waits
    (hcheck : c.configuration.check = .ok ()) (target : RebootTarget) (what card : String)
    (boot recovery : Duration) (accept : ComponentState → Bool) (pre : Snapshot)
    {last : Step Unit} {rest : Duration} (hlast : last.EndsWithin (fun _ => True) rest) :
    (Step.timed (c.awaitReboot target boot) >>= fun _ =>
      Step.timed (c.awaitState what card boot accept) >>= fun _ =>
        Step.timed (c.awaitInterfaces recovery pre) >>= fun _ => last).EndsWithin
      (WaitsFit boot recovery) (StatusPoll.longest boot + (boot + (recovery + rest))) := by
  have hinterfaces := (endsWithin_awaitInterfaces hcheck recovery pre).bind (fun _ => hlast)
    fun _ _ _ _ => trivial
  have hstate :
      (Step.timed (c.awaitState what card boot accept)).EndsWithin (StateFits boot recovery)
        boot :=
    (endsWithin_awaitState hcheck what card boot accept).mono (fun _ => And.left)
      (Nat.le_refl _)
  have hpoll :
      (Step.timed (c.awaitReboot target boot)).Takes (WaitsFit boot recovery)
        (StatusPoll.longest boot) (StatusPoll.CanFindOver boot) :=
    (c.takes_awaitReboot target boot).mono (fun _ => And.left) (Nat.le_refl _)
  have hfound := hstate.bind (fun _ => hinterfaces) fun start waited hfits => hfits.2 waited
  exact hpoll.bind (fun _ => hfound) fun start polled hfits => hfits.2 polled

variable (c)

theorem endsWithin_checkDrops (card : String) (hvendor : c.configuration.vendor = .juniper) :
    (c.checkDrops card).EndsWithin (fun _ => True) c.windowLimit := by
  unfold checkDrops windowLimit
  rw [if_pos hvendor]
  apply (Step.isInstant_ofOutcome _).bind
  intro ingress
  have hwatch := Step.endsWithin_timed
    (DropWindow.takes_watch (.ofSeconds c.configuration.traffic.sampleInterval)
      c.configuration.traffic.samples card ingress)
  exact hwatch.bind_instant fun report => Step.isInstant_ofOutcome report.result

theorem endsWithin_finish (card : String) :
    (c.finish card).EndsWithin (fun _ => True) c.windowLimit := by
  unfold finish
  by_cases hvendor : c.configuration.vendor = .juniper
  · rw [if_pos hvendor]
    by_cases hgenerator : c.hasGenerator = true
    · rw [if_pos hgenerator]
      exact c.endsWithin_checkDrops card hvendor
    · rw [if_neg hgenerator]
      exact (Step.isInstant_skip _).mono (fun _ => id) (Nat.zero_le _)
  · rw [if_neg hvendor]
    exact (Step.isInstant_pure ()).mono (fun _ => id) (Nat.zero_le _)

variable {c}

theorem endsWithin_recover
    (hcheck : c.configuration.check = .ok ()) (card : String) (pre : Snapshot)
    (case : RebootCase) :
    (c.recover card pre case).EndsWithin (c.DeadlinesFit · case) (c.timeLimit case) := by
  cases case with
  | standbyController =>
      rw [recover]
      have hstate := endsWithin_awaitState hcheck "redundant role" card
        (.ofSeconds c.configuration.timing.controllerBoot) fun state => state.role.isSome
      have hrest := hstate.bind_instant fun _ => Step.isInstant_pure ()
      exact Step.EndsWithin.after_pause fun _ => hrest
  | linecard =>
      rw [recover]
      have hwaits := endsWithin_waits hcheck (c.target card) "removable flag" card
        (.ofSeconds c.configuration.timing.linecardBoot)
        (.ofSeconds c.configuration.timing.linecardRecovery)
        (fun state => state.removable == some true) pre (c.endsWithin_finish card)
      simp only [timeLimit, Duration.add_assoc]
      exact Step.EndsWithin.after_pause fun _ => hwaits
  | fabric =>
      rw [recover]
      have hwaits := endsWithin_waits hcheck (c.target card) "oper-status" card
        (.ofSeconds c.configuration.timing.fabricBoot)
        (.ofSeconds c.configuration.timing.fabricRecovery)
        (fun state => state.status == some .active) pre (Step.isInstant_pure ())
      simp only [timeLimit, Duration.add_assoc]
      rw [Duration.add_zero] at hwaits
      exact hwaits

theorem endsWithin_steps (hcheck : c.configuration.check = .ok ()) (case : RebootCase) :
    (c.steps case).EndsWithin (c.DeadlinesFit · case) (c.timeLimit case) := by
  rw [steps_eq]
  apply (c.isInstant_prepare case).bind
  intro found
  apply (Step.isInstant_asked _).bind
  intro issued
  exact endsWithin_recover hcheck found.1 found.2 case

/-! ## The whole case -/

theorem takes_runCase (hcheck : c.configuration.check = .ok ()) (case : RebootCase) :
    (c.runCase case).Takes (c.DeadlinesFit · case) fun report elapsed =>
      report.case = case ∧ report.elapsed = elapsed ∧ elapsed ≤ c.timeLimit case := by
  apply Timed.Takes.measured (endsWithin_steps hcheck case)
  intro result elapsed hends
  exact ⟨rfl, rfl, hends.1⟩

/-- Whatever the device and the traffic generator answer, a case whose deadlines are on
the clock ends, within what its parts may take. -/
theorem runCase_bounded
    {σ : Type} (c : Campaign) (case : RebootCase) (bed : Responder bench σ) (state : σ)
    (start : Instant) (hcheck : c.configuration.check = .ok ())
    (hclock : c.DeadlinesFit start case) :
    ∃ report,
      ((c.runCase case).answeredBy bed start state).1 =
          (some report, start.after report.elapsed) ∧
        report.case = case ∧ report.elapsed ≤ c.timeLimit case := by
  obtain ⟨report, elapsed, hresult, hcase, hmeasured, hle⟩ :=
    (takes_runCase hcheck case).answeredBy bed hclock state
  rw [← hmeasured] at hresult hle
  exact ⟨report, hresult, hcase, hle⟩

/-- A chassis whose line card never ends its reboot. -/
def stuckDevice : Responder bench Unit where
  reply question state := (slowAnswer question 0, state)

theorem stuckDevice_bounded :
    pinnedCampaign.configuration.check = .ok () ∧ pinnedCampaign.DeadlinesFit ⟨0⟩ .linecard ∧
      ∃ report,
        ((pinnedCampaign.runCase .linecard).answeredBy stuckDevice ⟨0⟩ ()).1 =
            (some report, (⟨0⟩ : Instant).after report.elapsed) ∧
          report.case = .linecard ∧ report.elapsed ≤ pinnedCampaign.timeLimit .linecard := by
  have hcheck : pinnedCampaign.configuration.check = .ok () := rfl
  have hlast : (⟨0⟩ : Instant).HasDeadline (pinnedCampaign.timeLimit .linecard) := by
    decide +kernel
  have hclock := pinnedCampaign.deadlinesFit_of_hasDeadline hlast
  exact ⟨hcheck, hclock,
    runCase_bounded pinnedCampaign .linecard stuckDevice () ⟨0⟩ hcheck hclock⟩

end Campaign

end CardReboot
