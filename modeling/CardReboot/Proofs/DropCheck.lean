import CardReboot.Proofs.WaitRun

/-!
# The drop check of a line card

The check asks for counters, traffic and trap tables only, and what it finds is
about packets and tables.  So whatever the device answers, its failure is none of
those that are found before a reboot, and it goes on only after a clean window at
the first configured port.
-/

namespace CardReboot

theorem Step.Settles.bind
    {α β : Type} {exits : Exit → Prop} {middle : α → Prop} {goesOn : β → Prop}
    {outcome : Outcome α} {f : α → Outcome β}
    (houtcome : Step.Settles exits middle outcome)
    (hf : ∀ a, middle a → Step.Settles exits goesOn (f a)) :
    Step.Settles exits goesOn (outcome >>= f) := by
  cases outcome with
  | error failure => exact houtcome
  | ok a => exact hf a houtcome

/-! ## The failures of a table -/

namespace TrapTable

theorem settles_number (column : TrapColumn) (limit : Nat) (text line : List Char) :
    Step.SettlesLate (number column limit text line) := by
  unfold number
  cases Numeral.read limit (Text.trim text) with
  | ok n => exact trivial
  | error cause => exact id

theorem settles_record (columns : Columns) (line : List Char) :
    Step.SettlesLate (record columns line) := by
  unfold record
  refine (settles_number _ _ _ line).bind fun device _ => ?_
  refine (settles_number _ _ _ line).bind fun trapCode _ => ?_
  refine (settles_number _ _ _ line).bind fun count _ => ?_
  refine (settles_number _ _ _ line).bind fun rate _ => ?_
  exact trivial

theorem settles_line (text : List Char) : Step.SettlesLate (line text) := by
  unfold line
  split
  · exact trivial
  · cases columns? text with
    | some columns => exact (settles_record columns text).bind fun _ _ => trivial
    | none =>
        by_cases hblank : Text.isBlankText text = true
        · simp only [if_pos hblank]
          exact trivial
        · simp only [if_neg hblank]
          exact id

theorem settles_records (lines : List (List Char)) : Step.SettlesLate (records lines) := by
  induction lines with
  | nil => exact trivial
  | cons text rest ih =>
      unfold records
      refine (settles_line text).bind fun found _ => ?_
      exact ih.bind fun more _ => trivial

end TrapTable

/-! ## The failures of a window -/

theorem Failure.not_isPreflight_of_ofList?
    {failures : List Failure} {failure : Failure}
    (hall : ∀ found ∈ failures, ¬ found.IsPreflight)
    (hfailure : Failure.ofList? failures = some failure) : ¬ failure.IsPreflight := by
  rcases failures with _ | ⟨first, _ | ⟨second, rest⟩⟩
  · cases hfailure
  · cases hfailure
    exact hall _ List.mem_cons_self
  · cases hfailure
    exact id

namespace DropReport

/-- Nothing that was noted down on the way is a failure from before a reboot. -/
structure NotesLate (r : DropReport) : Prop where
  aborted : ∀ failure, r.aborted = some failure → ¬ failure.IsPreflight
  errors : ∀ failure ∈ r.errors, ¬ failure.IsPreflight

theorem not_isPreflight_of_mem_failures
    {r : DropReport} (hnotes : r.NotesLate) {failure : Failure}
    (hmem : failure ∈ r.failures) : ¬ failure.IsPreflight := by
  simp only [failures, List.mem_append, Option.mem_toList] at hmem
  rcases hmem with ((hdrops | haborted) | herrors) | hflow
  · unfold dropFailure? at hdrops
    split at hdrops <;> cases hdrops
    exact id
  · exact hnotes.aborted failure haborted
  · exact hnotes.errors failure herrors
  · unfold flowFailure? at hflow
    split at hflow
    · split at hflow <;> cases hflow
      exact id
    · cases hflow

theorem settles_result {r : DropReport} (hnotes : r.NotesLate) : Step.SettlesLate r.result := by
  unfold result
  cases hfailure : Failure.ofList? r.failures with
  | none => exact trivial
  | some failure =>
      have hall : ∀ found ∈ r.failures, ¬ found.IsPreflight :=
        fun found hmem => not_isPreflight_of_mem_failures hnotes hmem
      exact Failure.not_isPreflight_of_ofList? hall hfailure

end DropReport

namespace DropWindow

theorem settles_reading (command : String) (answer : Answered CommandOutput) :
    Step.SettlesLate (reading command answer) := by
  unfold reading
  cases answer with
  | error e => exact id
  | ok result =>
      by_cases hrefused : result.isError = true
      · simp only [if_pos hrefused]
        exact id
      · simp only [if_neg hrefused]
        exact TrapTable.settles_records _

theorem notesLate_tally
    (command : String) (taken : Nat) {report : DropReport}
    (answers : List (Answered CommandOutput)) (hreport : report.NotesLate) :
    (tally command taken report answers).NotesLate := by
  induction answers generalizing taken report with
  | nil => exact hreport
  | cons answer rest ih =>
      have hreading := settles_reading command answer
      cases hread : reading command answer with
      | error failure =>
          rw [hread] at hreading
          simp only [tally, hread]
          refine ⟨?_, hreport.errors⟩
          rintro _ ⟨⟩
          exact hreading
      | ok records =>
          simp only [tally, hread]
          exact ih _ ⟨hreport.aborted, hreport.errors⟩

theorem not_isPreflight_of_mem_closingErrors
    {ingress : String} {stopped : Answered Unit} {counted : Answered Nat}
    {failure : Failure} (hmem : failure ∈ closingErrors ingress stopped counted) :
    ¬ failure.IsPreflight := by
  unfold closingErrors at hmem
  rcases List.mem_append.mp hmem with hstopped | hcounted
  · cases stopped with
    | error e =>
        cases List.mem_singleton.mp hstopped
        exact id
    | ok _ => cases hstopped
  · cases counted with
    | error e =>
        cases List.mem_singleton.mp hcounted
        exact id
    | ok _ => cases hcounted

theorem notesLate_windowReport
    (linecard ingress : String) (before : Nat) (answers : List (Answered CommandOutput))
    (stopped : Answered Unit) (counted : Answered Nat) :
    (windowReport linecard ingress before answers stopped counted).NotesLate := by
  have hopened : (openedReport ingress before).NotesLate := ⟨by simp [openedReport],
    by simp [openedReport]⟩
  have htally := notesLate_tally (TrapTable.command linecard) 0 answers hopened
  refine ⟨htally.aborted, ?_⟩
  intro failure hmem
  rcases List.mem_append.mp hmem with hsampling | hclosing
  · exact htally.errors failure hsampling
  · exact not_isPreflight_of_mem_closingErrors hclosing

theorem asksOnly_windowExchanges
    (interval : Duration) (linecard ingress : String) (before : Nat)
    (answers : List (Answered CommandOutput))
    (stopped : Answered Unit) (counted : Answered Nat) :
    Transcript.AsksOnly (I := bench) BenchRequest.IsQuiet
      (windowExchanges interval linecard ingress before answers stopped counted) := by
  intro exchange hmem
  simp only [windowExchanges, sampleExchanges, List.mem_append, List.mem_flatMap,
    List.mem_cons, List.not_mem_nil, or_false] at hmem
  rcases hmem with ((rfl | rfl) | ⟨answer, -, rfl | rfl⟩) | rfl | rfl <;> exact trivial

/-- A window leaves every card alone and reports late failures only. -/
theorem guarantees_watch
    (interval : Duration) (count : Nat) (linecard ingress : String) :
    (watch interval count linecard ingress).Guarantees BenchRequest.IsQuiet
      (Step.Settles Exit.IsLate fun report => Step.SettlesLate report.result) := by
  intro start transcript result stop hrun
  obtain ⟨outcome, rfl, hwindow⟩ := exists_windowRun_of_runs_watch hrun
  cases hwindow with
  | uncounted e =>
      refine ⟨by simp [Transcript.AsksOnly, BenchRequest.IsQuiet], ?_⟩
      rintro _ ⟨⟩
      exact id
  | unstarted before e =>
      refine ⟨by simp [Transcript.AsksOnly, BenchRequest.IsQuiet], ?_⟩
      rintro _ ⟨⟩
      exact id
  | opened hsampling =>
      refine ⟨asksOnly_windowExchanges _ _ _ _ _ _ _, ?_⟩
      rintro _ ⟨⟩
      exact DropReport.settles_result (notesLate_windowReport _ _ _ _ _ _)

end DropWindow

/-! ## The check -/

namespace Campaign

variable (c : Campaign)

/-- A clean window of the card, with traffic at the first configured port. -/
def IsCleanWindow (card : String) (transcript : Transcript bench) : Prop :=
  ∃ port, c.configuration.topology.ports.head? = some port ∧
    DropWindow.CleanWindow c.configuration.traffic.samples card port transcript

theorem ingressPort_eq_ok_iff {port : String} :
    c.ingressPort = .ok port ↔ c.configuration.topology.ports.head? = some port := by
  unfold ingressPort Topology.ingressPort?
  cases c.configuration.topology.ports.head? <;> simp

theorem guarantees_checkDrops
    {port : String} (hport : c.ingressPort = .ok port) (card : String)
    (request : StatusRequest) :
    (c.checkDrops card).Guarantees (BenchRequest.IsFollowUp request) Exit.IsLate
      fun _ => True := by
  unfold checkDrops
  have hingress : Step.SettlesLate c.ingressPort := by
    rw [hport]
    exact trivial
  refine Step.guarantees_bind (Step.guarantees_ofOutcome hingress) fun ingress _ => ?_
  have hwatch := DropWindow.guarantees_watch
    (.ofSeconds c.configuration.traffic.sampleInterval) c.configuration.traffic.samples
    card ingress
  refine Step.guarantees_bind (Step.guarantees_timed (hwatch.isFollowUp request)) ?_
  intro report hreport
  exact Step.guarantees_ofOutcome hreport

theorem shows_checkDrops (card : String) :
    (c.checkDrops card).Shows [c.IsCleanWindow card] := by
  intro start transcript done stop hrun
  unfold checkDrops at hrun
  obtain ⟨_, rest, port, _, rfl, hingress, hrest⟩ := Step.runs_bind_ok_iff.mp hrun
  obtain ⟨window, after, report, _, rfl, hwindow, hafter⟩ := Step.runs_bind_ok_iff.mp hrest
  obtain ⟨rfl, hport, rfl⟩ := Step.runs_ofOutcome_ok_iff.mp hingress
  obtain ⟨rfl, hresult, rfl⟩ := Step.runs_ofOutcome_ok_iff.mp hafter
  have hwatch := Step.runs_timed_ok_iff.mp hwindow
  obtain ⟨outcome, houtcome, hrun⟩ := DropWindow.exists_windowRun_of_runs_watch hwatch
  cases houtcome
  have hclean := hrun.passes_iff.mp ⟨report, rfl, hresult⟩
  rw [List.append_nil]
  exact Transcript.showsInOrder_singleton (I := bench) _
    ⟨port, c.ingressPort_eq_ok_iff.mp hport, hclean⟩

end Campaign

end CardReboot
