import CardReboot.Proofs.DropWindowRun

/-!
# When a drop window passes

A window passes when its report is without failures.  The four parts of a
report that failures come from are only jointly consistent: a window whose
counter could not be read again has nothing to compare, but then the lost
reading is among the errors.  Together they are empty exactly when every table
was clean, the traffic stopped and the counter grew.
-/

namespace CardReboot

theorem Failure.ofList?_eq_none_iff {failures : List Failure} :
    Failure.ofList? failures = none ↔ failures = [] := by
  rcases failures with _ | ⟨first, _ | ⟨second, rest⟩⟩ <;> simp [Failure.ofList?]

namespace DropReport

theorem dropFailure?_eq_none_iff {violations : List DropViolation} :
    dropFailure? violations = none ↔ violations = [] := by
  cases violations <;> simp [dropFailure?]

theorem flowFailure?_eq_none_iff {r : DropReport} :
    r.flowFailure? = none ↔
      ∀ after, r.packetsAfter = some after → r.packetsBefore < after := by
  unfold flowFailure?
  cases r.packetsAfter <;> simp

theorem result_eq_ok_iff {r : DropReport} :
    r.result = .ok () ↔
      r.violations = [] ∧ r.aborted = none ∧ r.errors = [] ∧
        ∀ after, r.packetsAfter = some after → r.packetsBefore < after := by
  have hnone : r.result = .ok () ↔ Failure.ofList? r.failures = none := by
    unfold result
    cases Failure.ofList? r.failures <;> simp
  rw [hnone, Failure.ofList?_eq_none_iff, failures]
  simp [dropFailure?_eq_none_iff, flowFailure?_eq_none_iff]

end DropReport

namespace DropWindow

/-! ## Clean tables -/

/-- The command was answered without an error, and with a table that can be read
and in which every rate is zero. -/
def IsClean (answer : Answered CommandOutput) : Prop :=
  ∃ output records, answer = .ok ⟨output, ""⟩ ∧
    TrapTable.parse output = .ok records ∧ ∀ record ∈ records, record.rate = 0

theorem reading_eq_ok_iff
    {command : String} {answer : Answered CommandOutput} {records : List TrapRecord} :
    reading command answer = .ok records ↔
      ∃ output, answer = .ok ⟨output, ""⟩ ∧ TrapTable.parse output = .ok records := by
  rcases answer with e | ⟨output, error⟩
  · simp [reading]
  · by_cases herror : error = ""
    · subst herror
      simp [reading, CommandOutput.isError]
    · simp [reading, CommandOutput.isError, herror]

theorem isClean_iff_of_reading
    {command : String} {answer : Answered CommandOutput} {records : List TrapRecord}
    (hread : reading command answer = .ok records) :
    IsClean answer ↔ ∀ record ∈ records, record.rate = 0 := by
  obtain ⟨output, rfl, hparse⟩ := reading_eq_ok_iff.mp hread
  constructor
  · rintro ⟨output', records', hanswer, hparse', hrates⟩
    cases hanswer
    rw [hparse] at hparse'
    cases hparse'
    exact hrates
  · intro hrates
    exact ⟨output, records, rfl, hparse, hrates⟩

theorem not_isClean_of_reading
    {command : String} {answer : Answered CommandOutput} {failure : Failure}
    (hread : reading command answer = .error failure) : ¬ IsClean answer := by
  rintro ⟨output, records, rfl, hparse, -⟩
  rw [reading_eq_ok_iff.mpr ⟨output, rfl, hparse⟩] at hread
  cases hread

theorem dropsIn_eq_nil_iff {taken : Nat} {records : List TrapRecord} :
    dropsIn taken records = [] ↔ ∀ record ∈ records, record.rate = 0 := by
  simp [dropsIn]

/-- Sampling touches nothing but what it observes. -/
theorem tally_frame
    (command : String) (taken : Nat) (report : DropReport)
    (answers : List (Answered CommandOutput)) :
    (tally command taken report answers).errors = report.errors ∧
      (tally command taken report answers).packetsBefore = report.packetsBefore ∧
        (tally command taken report answers).packetsAfter = report.packetsAfter := by
  induction answers generalizing taken report with
  | nil => exact ⟨rfl, rfl, rfl⟩
  | cons answer rest ih =>
      cases hread : reading command answer with
      | error failure => simp [tally, hread]
      | ok records =>
          simp only [tally, hread]
          exact ih _ _

theorem tally_clean_iff
    (command : String) (taken : Nat) {report : DropReport}
    (answers : List (Answered CommandOutput)) (haborted : report.aborted = none) :
    (tally command taken report answers).violations = [] ∧
        (tally command taken report answers).aborted = none ↔
      report.violations = [] ∧ ∀ answer ∈ answers, IsClean answer := by
  induction answers generalizing taken report with
  | nil => simp [tally, haborted]
  | cons answer rest ih =>
      cases hread : reading command answer with
      | error failure => simp [tally, hread, not_isClean_of_reading hread]
      | ok records =>
          simp only [tally, hread]
          refine (ih _ ?_).trans ?_
          · exact haborted
          · rw [List.append_eq_nil_iff, dropsIn_eq_nil_iff,
              ← isClean_iff_of_reading hread, List.forall_mem_cons, and_assoc]

theorem Sampling.length_eq
    {command : String} {count : Nat} {answers : List (Answered CommandOutput)}
    (hsampling : Sampling command count answers)
    (hclean : ∀ answer ∈ answers, IsClean answer) : answers.length = count := by
  induction hsampling with
  | finished => rfl
  | aborted hread =>
      exact absurd (hclean _ List.mem_cons_self) (not_isClean_of_reading hread)
  | taken hread hrest ih =>
      rw [List.length_cons, ih fun answer hmem => hclean answer (List.mem_cons_of_mem _ hmem)]

/-! ## The report of an opened window -/

theorem closingErrors_eq_nil_iff
    {ingress : String} {stopped : Answered Unit} {counted : Answered Nat} :
    closingErrors ingress stopped counted = [] ↔
      stopped = .ok () ∧ ∃ after, counted = .ok after := by
  cases stopped <;> cases counted <;> simp [closingErrors]

theorem windowReport_result_eq_ok_iff
    {linecard ingress : String} {before : Nat}
    {answers : List (Answered CommandOutput)}
    {stopped : Answered Unit} {counted : Answered Nat} :
    (windowReport linecard ingress before answers stopped counted).result = .ok () ↔
      (∀ answer ∈ answers, IsClean answer) ∧ stopped = .ok () ∧
        ∃ after, counted = .ok after ∧ before < after := by
  have hopened : (openedReport ingress before).aborted = none := rfl
  have hclean := tally_clean_iff (TrapTable.command linecard) 0 answers hopened
  obtain ⟨herrors, hbefore, hafter⟩ :=
    tally_frame (TrapTable.command linecard) 0 (openedReport ingress before) answers
  rw [DropReport.result_eq_ok_iff, windowReport, closed, herrors, hbefore, hafter,
    ← and_assoc, hclean]
  simp only [openedReport, List.nil_append, true_and, closingErrors_eq_nil_iff,
    Option.or_none]
  constructor
  · rintro ⟨hanswers, ⟨hstopped, after, rfl⟩, hgrown⟩
    exact ⟨hanswers, hstopped, after, rfl, hgrown after rfl⟩
  · rintro ⟨hanswers, hstopped, after, rfl, hgrown⟩
    refine ⟨hanswers, ⟨hstopped, after, rfl⟩, ?_⟩
    rintro _ ⟨⟩
    exact hgrown

theorem windowReport_errors_ne_nil
    {linecard ingress : String} {before : Nat}
    {answers : List (Answered CommandOutput)}
    {stopped : Answered Unit} {counted : Answered Nat}
    (hafter : (windowReport linecard ingress before answers stopped counted).packetsAfter =
      none) :
    (windowReport linecard ingress before answers stopped counted).errors ≠ [] := by
  obtain ⟨-, -, hkept⟩ :=
    tally_frame (TrapTable.command linecard) 0 (openedReport ingress before) answers
  intro herrors
  rw [windowReport, closed, List.append_eq_nil_iff] at herrors
  obtain ⟨-, after, rfl⟩ := closingErrors_eq_nil_iff.mp herrors.2
  rw [windowReport, closed, hkept] at hafter
  cases hafter

/-! ## The verdict -/

def consoleAnswers (transcript : Transcript bench) :
    List (String × Answered CommandOutput) :=
  transcript.filterMap fun
    | ⟨.console command, answer⟩ => some (command, answer)
    | _ => none

/-- The counter was read, traffic started, `count` clean tables of the line card
were fetched, traffic stopped, and the counter was read again and had grown. -/
structure CleanWindow
    (count : Nat) (linecard ingress : String) (transcript : Transcript bench) : Prop where
  counted : ∃ before after,
    transcript.head? = some ⟨.ingressPackets ingress, .ok before⟩ ∧
      transcript.getLast? = some ⟨.ingressPackets ingress, .ok after⟩ ∧ before < after
  started : ⟨.startTraffic, .ok ()⟩ ∈ transcript
  sampled : (consoleAnswers transcript).length = count
  clean : ∀ sample ∈ consoleAnswers transcript,
    sample.1 = TrapTable.command linecard ∧ IsClean sample.2
  stopped : ⟨.stopTraffic, .ok ()⟩ ∈ transcript

theorem consoleAnswers_windowExchanges
    (interval : Duration) (linecard ingress : String) (before : Nat)
    (answers : List (Answered CommandOutput))
    (stopped : Answered Unit) (counted : Answered Nat) :
    consoleAnswers
        (windowExchanges interval linecard ingress before answers stopped counted) =
      answers.map fun answer => (TrapTable.command linecard, answer) := by
  have hsamples :
      consoleAnswers
          (answers.flatMap (sampleExchanges interval (TrapTable.command linecard))) =
        answers.map fun answer => (TrapTable.command linecard, answer) := by
    induction answers with
    | nil => rfl
    | cons answer rest ih =>
        simp only [List.flatMap_cons, List.map_cons]
        rw [← ih]
        rfl
  unfold windowExchanges
  simp only [consoleAnswers, List.filterMap_append] at hsamples ⊢
  rw [hsamples]
  simp

theorem getLast?_windowExchanges
    (interval : Duration) (linecard ingress : String) (before : Nat)
    (answers : List (Answered CommandOutput))
    (stopped : Answered Unit) (counted : Answered Nat) :
    (windowExchanges interval linecard ingress before answers stopped counted).getLast? =
      some ⟨.ingressPackets ingress, counted⟩ := by
  rw [windowExchanges, List.getLast?_append]
  rfl

theorem stopTraffic_mem_windowExchanges_iff
    {interval : Duration} {linecard ingress : String} {before : Nat}
    {answers : List (Answered CommandOutput)}
    {stopped found : Answered Unit} {counted : Answered Nat} :
    (⟨.stopTraffic, found⟩ : Exchange bench) ∈
        windowExchanges interval linecard ingress before answers stopped counted ↔
      found = stopped := by
  constructor
  · intro hmem
    simp only [windowExchanges, sampleExchanges, List.mem_append, List.mem_cons,
      List.mem_flatMap, List.not_mem_nil, or_false] at hmem
    rcases hmem with ((h | h) | ⟨answer, -, h | h⟩) | (h | h) <;> cases h
    rfl
  · rintro rfl
    simp [windowExchanges]

theorem cleanWindow_windowExchanges_iff
    {interval : Duration} {count : Nat} {linecard ingress : String} {before : Nat}
    {answers : List (Answered CommandOutput)}
    {stopped : Answered Unit} {counted : Answered Nat} :
    CleanWindow count linecard ingress
        (windowExchanges interval linecard ingress before answers stopped counted) ↔
      answers.length = count ∧ (∀ answer ∈ answers, IsClean answer) ∧
        stopped = .ok () ∧ ∃ after, counted = .ok after ∧ before < after := by
  have hconsole :=
    consoleAnswers_windowExchanges interval linecard ingress before answers stopped counted
  have hlast :=
    getLast?_windowExchanges interval linecard ingress before answers stopped counted
  constructor
  · rintro ⟨⟨first, after, hfirst, hafter, hgrown⟩, -, hsampled, hclean, hstopped⟩
    rw [hconsole] at hsampled hclean
    rw [hlast] at hafter
    cases hfirst
    cases hafter
    refine ⟨by simpa using hsampled, ?_, ?_, after, rfl, hgrown⟩
    · intro answer hmem
      exact (hclean (TrapTable.command linecard, answer)
        (List.mem_map.mpr ⟨answer, hmem, rfl⟩)).2
    · exact (stopTraffic_mem_windowExchanges_iff.mp hstopped).symm
  · rintro ⟨hsampled, hclean, rfl, after, rfl, hgrown⟩
    refine ⟨⟨before, after, rfl, hlast, hgrown⟩, ?_, ?_, ?_, ?_⟩
    · simp [windowExchanges]
    · rw [hconsole, List.length_map, hsampled]
    · rw [hconsole]
      intro sample hmem
      obtain ⟨answer, hanswer, rfl⟩ := List.mem_map.mp hmem
      exact ⟨rfl, hclean answer hanswer⟩
    · exact stopTraffic_mem_windowExchanges_iff.mpr rfl

/-- A window that was not opened is not a clean one. -/
theorem WindowRun.passes_iff
    {interval : Duration} {count : Nat} {linecard ingress : String}
    {start stop : Instant} {transcript : Transcript bench}
    {outcome : Outcome DropReport}
    (hrun : WindowRun interval count linecard ingress start transcript outcome stop) :
    (∃ report, outcome = .ok report ∧ report.result = .ok ()) ↔
      CleanWindow count linecard ingress transcript := by
  cases hrun with
  | uncounted e =>
      constructor
      · rintro ⟨report, hreport, -⟩
        cases hreport
      · rintro ⟨⟨before, after, hbefore, -⟩, -⟩
        cases hbefore
  | unstarted before e =>
      constructor
      · rintro ⟨report, hreport, -⟩
        cases hreport
      · intro hclean
        have hstarted := hclean.started
        simp only [List.mem_cons, List.not_mem_nil, or_false] at hstarted
        rcases hstarted with h | h <;> cases h
  | @opened before answers stopped counted hsampling =>
      rw [cleanWindow_windowExchanges_iff]
      constructor
      · rintro ⟨report, hreport, hresult⟩
        cases hreport
        obtain ⟨hclean, hrest⟩ := windowReport_result_eq_ok_iff.mp hresult
        exact ⟨hsampling.length_eq hclean, hclean, hrest⟩
      · rintro ⟨-, hrest⟩
        exact ⟨_, rfl, windowReport_result_eq_ok_iff.mpr hrest⟩

/-- Against any device and generator, a window passes exactly when it was clean.
A report without a second count has an error in its place, and does not pass. -/
theorem watch_passes_iff
    {σ : Type} (device : Responder bench σ) (state : σ) (start : Instant)
    (interval : Duration) (count : Nat) (linecard ingress : String) :
    let window := watch interval count linecard ingress
    let outcome := (window.answeredBy device start state).1.1
    ((∃ report, outcome = some (.ok report) ∧ report.result = .ok ()) ↔
        CleanWindow count linecard ingress (window.exchangesWith device start state)) ∧
      ∀ report, outcome = some (.ok report) → report.packetsAfter = none →
        report.errors ≠ [] ∧ report.result ≠ .ok () := by
  intro window outcome
  obtain ⟨found, hfound, hrun⟩ :=
    exists_windowRun_of_runs_watch (Timed.runs_answeredBy window device start state)
  have houtcome : outcome = some found := hfound
  rw [houtcome]
  constructor
  · rw [← hrun.passes_iff]
    simp only [Option.some.injEq]
  · intro report hreport hafter
    cases hreport
    generalize window.exchangesWith device start state = transcript at hrun
    generalize (window.answeredBy device start state).1.2 = stop at hrun
    cases hrun with
    | opened hsampling =>
        have herrors := windowReport_errors_ne_nil hafter
        refine ⟨herrors, ?_⟩
        intro hresult
        exact herrors (DropReport.result_eq_ok_iff.mp hresult).2.2.1

end DropWindow

end CardReboot
