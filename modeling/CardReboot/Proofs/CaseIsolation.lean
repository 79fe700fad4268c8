import CardReboot.Proofs.CaseTime
import CardReboot.Proofs.SteadyBench

/-!
# Cases that run one after another

On a steady bench a case reports the same whenever it starts and whatever ran before
it: its dialogue does not depend on the clock, and the bench does not show what it was
asked.  So a list of cases reports what each of them reports alone.
-/

namespace CardReboot

namespace Campaign

variable (c : Campaign)

/-! ## The clock -/

/-- Every deadline is on the clock of cases that begin one after another, the first at
`start`, and report what each reports alone. -/
def AllDeadlinesFit (alone : RebootCase → CaseReport) : Instant → List RebootCase → Prop
  | _, [] => True
  | start, case :: rest =>
      c.DeadlinesFit start case ∧ AllDeadlinesFit alone (start.after (alone case).elapsed) rest

def endOf (alone : RebootCase → CaseReport) (start : Instant) (cases : List RebootCase) :
    Instant :=
  cases.foldl (fun now case => now.after (alone case).elapsed) start

def totalLimit : List RebootCase → Duration
  | [] => .zero
  | case :: rest => c.timeLimit case + totalLimit rest

theorem allDeadlinesFit_of_hasDeadline
    {alone : RebootCase → CaseReport}
    (hbounds : ∀ case, (alone case).elapsed ≤ c.timeLimit case) {cases : List RebootCase}
    {start : Instant} (hlast : start.HasDeadline (c.totalLimit cases)) :
    c.AllDeadlinesFit alone start cases := by
  induction cases generalizing start with
  | nil => trivial
  | cons case rest ih =>
      have hcase := hbounds case
      rw [Duration.le_def] at hcase
      constructor
      · apply c.deadlinesFit_of_hasDeadline
        apply hlast.mono
        simp only [totalLimit, Instant.after, Duration.nanos_add]
        omega
      · apply ih
        apply hlast.mono
        simp only [totalLimit, Instant.after, Duration.nanos_add]
        omega

/-! ## The reports -/

section Steady

variable {c} {d : RehearsedDevice} {generator : Option RehearsedGenerator}
  {host : RehearsedHost} {alone : RebootCase → CaseReport}

/-- On every bench like the fresh one a case has its one report, and leaves such a
bench. -/
def ReportsAlone
    (c : Campaign) (d : RehearsedDevice) (generator : Option RehearsedGenerator)
    (host : RehearsedHost) (alone : RebootCase → CaseReport) : Prop :=
  ∀ case start r, Rehearsal.Resembles d generator host r → c.DeadlinesFit start case →
    ∃ later, Rehearsal.Resembles d generator host later ∧
      (c.runCase case).answeredBy Rehearsal.responder start r =
        ((some (alone case), start.after (alone case).elapsed), later)

theorem ReportsAlone.runCases
    (halone : c.ReportsAlone d generator host alone) {cases : List RebootCase} {start : Instant}
    {r : Rehearsal} (hr : Rehearsal.Resembles d generator host r)
    (hclock : c.AllDeadlinesFit alone start cases) :
    ∃ later, (c.runCases cases).answeredBy Rehearsal.responder start r =
      ((some (cases.map alone), endOf alone start cases), later) := by
  induction cases generalizing start r with
  | nil => exact ⟨r, rfl⟩
  | cons case rest ih =>
      obtain ⟨middle, hmiddle, hcase⟩ := halone case start r hr hclock.1
      obtain ⟨later, hrest⟩ := ih hmiddle hclock.2
      refine ⟨later, ?_⟩
      rw [Campaign.runCases, Timed.answeredBy_bind_of_some _ _ _ hcase,
        Timed.answeredBy_bind_of_some _ _ _ hrest, Timed.answeredBy_pure]
      rfl

theorem exists_reportsAlone
    (hsteady : d.IsSteady) (hcheck : c.configuration.check = .ok ())
    (generator : Option RehearsedGenerator) (host : RehearsedHost) :
    ∃ alone, c.ReportsAlone d generator host alone ∧
      ∀ case, (alone case).case = case ∧ (alone case).elapsed ≤ c.timeLimit case := by
  -- The dialogue of a case is one and the same from every start, so its report is too.
  choose dialogue hends hsame using fun case => takes_runCase hcheck case
  let result := fun case =>
    ((dialogue case).run Rehearsal.responder (.of d generator host)).1
  have hresult : ∀ case, (result case).1.case = case ∧
      (result case).1.elapsed = (result case).2 ∧ (result case).2 ≤ c.timeLimit case := by
    intro case
    exact (hends case _ _ (Dialogue.produces_transcript _ (dialogue case) _)).2
  refine ⟨fun case => (result case).1, ?_, ?_⟩
  · intro case start r hr hclock
    obtain ⟨hrun, hlater⟩ := Rehearsal.run_of_resembles hsteady (dialogue case) hr
    rw [Timed.answeredBy_of_startingAt (hsame case start hclock), hrun, (hresult case).2.1]
    exact ⟨_, hlater, rfl⟩
  · intro case
    rw [(hresult case).2.1]
    exact ⟨(hresult case).1, (hresult case).2.2⟩

end Steady

/-- On a steady device, with any rehearsed generator or none and beside any host, a list of
cases reports case by case what each reports alone on the fresh device. -/
theorem runCases_isolated
    (c : Campaign) (d : RehearsedDevice) (generator : Option RehearsedGenerator)
    (host : RehearsedHost) (hsteady : d.IsSteady) (hcheck : c.configuration.check = .ok ()) :
    ∃ alone : RebootCase → CaseReport,
      (∀ case, (alone case).case = case ∧ (alone case).elapsed ≤ c.timeLimit case) ∧
      (∀ case start, c.DeadlinesFit start case →
        ((c.runCase case).answeredBy Rehearsal.responder start (.of d generator host)).1 =
          (some (alone case), start.after (alone case).elapsed)) ∧
      ∀ cases start, c.AllDeadlinesFit alone start cases →
        ((c.runCases cases).answeredBy Rehearsal.responder start (.of d generator host)).1 =
          (some (cases.map alone), endOf alone start cases) := by
  obtain ⟨alone, halone, hbounds⟩ := exists_reportsAlone hsteady hcheck generator host
  refine ⟨alone, hbounds, ?_, ?_⟩
  · intro case start hclock
    obtain ⟨later, -, hcase⟩ := halone case start _ Rehearsal.resembles_of hclock
    rw [hcase]
  · intro cases start hclock
    obtain ⟨later, hcases⟩ := halone.runCases Rehearsal.resembles_of hclock
    rw [hcases]

theorem isSteady_modularChassis : RehearsedDevice.modularChassis.IsSteady := by
  constructor <;>
    simp [RehearsedDevice.modularChassis, RehearsedCard.controllerCard, RehearsedCard.linecard,
      RehearsedCard.fabric, RehearsedCard.ofState, ScriptTable.IsSteady, AnswerScript.IsSteady,
      AnswerScript.constant]

/-- No line card of this device reports its ingress counter, so both line card cases fail on
the first one, the second of them like the first. -/
theorem modularChassis_isolated :
    RehearsedDevice.modularChassis.IsSteady ∧ pinnedCampaign.configuration.check = .ok () ∧
      ∃ alone : RebootCase → CaseReport,
        ((pinnedCampaign.runCases [.linecard, .standbyController, .linecard]).answeredBy
            Rehearsal.responder ⟨0⟩ (.of .modularChassis (some {}) {})).1.1 =
          some [alone .linecard, alone .standbyController, alone .linecard] ∧
        (alone .linecard).verdict = .failed
          (.during "read counters of et-1/0/0" (.decode "et-1/0/0" "in-pkts not reported")) ∧
        (alone .standbyController).verdict = .passed := by
  have hcheck : pinnedCampaign.configuration.check = .ok () := rfl
  obtain ⟨alone, hbounds, -, hall⟩ := runCases_isolated pinnedCampaign .modularChassis (some {})
    {} isSteady_modularChassis hcheck
  have hlast : (⟨0⟩ : Instant).HasDeadline
      (pinnedCampaign.totalLimit [.linecard, .standbyController, .linecard]) := by
    decide +kernel
  have hclock := pinnedCampaign.allDeadlinesFit_of_hasDeadline
    (fun case => (hbounds case).2) hlast
  have hreports := congrArg Prod.fst
    (hall [.linecard, .standbyController, .linecard] ⟨0⟩ hclock)
  have hverdicts := congrArg (Option.map (List.map CaseReport.verdict)) hreports.symm
  change some [(alone .linecard).verdict, (alone .standbyController).verdict, _] =
    some [.failed (.during "read counters of et-1/0/0"
      (.decode "et-1/0/0" "in-pkts not reported")), .passed, _] at hverdicts
  simp only [Option.some.injEq, List.cons.injEq] at hverdicts
  exact ⟨isSteady_modularChassis, hcheck, alone, hreports, hverdicts.1, hverdicts.2.1⟩

end Campaign

end CardReboot
