import CardReboot.Proofs.DropWindowRun

/-!
# What a drop window asks and reports

A window is determined by the answers to its questions.  The samples go on to the
first that fails; the report counts those before it and has one violation for each
row of theirs with another rate than zero.  Whatever the samples were, traffic that
was started is stopped once, and traffic that was not is not.
-/

namespace CardReboot

namespace DropWindow

/-! ## One sample -/

def failureIn (command : String) (answer : Answered CommandOutput) : Option Failure :=
  match reading command answer with
  | .error failure => some failure
  | .ok _ => none

/-- The rows of a sample; one that fails has none. -/
def rowsIn (command : String) (answer : Answered CommandOutput) : List TrapRecord :=
  match reading command answer with
  | .error _ => []
  | .ok records => records

section Sample

variable {command : String} {answer : Answered CommandOutput}

theorem failureIn_of_error
    {failure : Failure} (hread : reading command answer = .error failure) :
    failureIn command answer = some failure := by
  simp [failureIn, hread]

theorem failureIn_of_ok
    {records : List TrapRecord} (hread : reading command answer = .ok records) :
    failureIn command answer = none := by
  simp [failureIn, hread]

theorem rowsIn_of_error
    {failure : Failure} (hread : reading command answer = .error failure) :
    rowsIn command answer = [] := by
  simp [rowsIn, hread]

theorem rowsIn_of_ok
    {records : List TrapRecord} (hread : reading command answer = .ok records) :
    rowsIn command answer = records := by
  simp [rowsIn, hread]

end Sample

/-! ## All samples -/

/-- The failure of the first sample that fails. -/
def abortIn (command : String) (answers : List (Answered CommandOutput)) : Option Failure :=
  answers.findSome? (failureIn command)

def abortIndex? (command : String) (answers : List (Answered CommandOutput)) : Option Nat :=
  answers.findIdx? fun answer => (failureIn command answer).isSome

def samplesIn (command : String) (answers : List (Answered CommandOutput)) : Nat :=
  match abortIn command answers with
  | some _ => answers.length - 1
  | none => answers.length

/-- Every row with another rate than zero, sample by sample and row by row. -/
def violationsIn
    (command : String) (first : Nat) (answers : List (Answered CommandOutput)) :
    List DropViolation :=
  (answers.zipIdx first).flatMap fun (answer, index) => dropsIn index (rowsIn command answer)

section Cons

variable {command : String} {answer : Answered CommandOutput}
  {rest : List (Answered CommandOutput)} {records : List TrapRecord}

theorem abortIn_cons_of_ok (hread : reading command answer = .ok records) :
    abortIn command (answer :: rest) = abortIn command rest := by
  simp [abortIn, failureIn_of_ok hread]

theorem abortIndex?_cons_of_ok (hread : reading command answer = .ok records) :
    abortIndex? command (answer :: rest) = (abortIndex? command rest).map (· + 1) := by
  simp [abortIndex?, List.findIdx?_cons, failureIn_of_ok hread]

theorem samplesIn_cons_of_ok (hread : reading command answer = .ok records) :
    samplesIn command (answer :: rest) = samplesIn command rest + 1 := by
  unfold samplesIn
  rw [abortIn_cons_of_ok hread]
  cases rest with
  | nil => rfl
  | cons next rest =>
      cases abortIn command (next :: rest) with
      | none => rfl
      | some failure => simp

theorem violationsIn_cons (first : Nat) :
    violationsIn command first (answer :: rest) =
      dropsIn first (rowsIn command answer) ++ violationsIn command (first + 1) rest := by
  simp [violationsIn, List.zipIdx_cons]

end Cons

namespace Sampling

variable {command : String} {count : Nat} {answers : List (Answered CommandOutput)}

theorem length_eq_abortIndex (hsampling : Sampling command count answers) :
    answers.length =
      match abortIndex? command answers with
      | some index => index + 1
      | none => count := by
  induction hsampling with
  | finished => rfl
  | aborted hread => simp [abortIndex?, failureIn_of_error hread]
  | @taken count answer records rest hread hrest ih =>
      rw [abortIndex?_cons_of_ok hread, List.length_cons, ih]
      cases abortIndex? command rest <;> rfl

theorem tally_eq
    (hsampling : Sampling command count answers) (taken : Nat) (report : DropReport)
    (hopen : report.aborted = none) :
    tally command taken report answers =
      { report with
        samples := report.samples + samplesIn command answers
        violations := report.violations ++ violationsIn command taken answers
        aborted := abortIn command answers } := by
  induction hsampling generalizing taken report with
  | finished =>
      cases report
      cases hopen
      simp [tally, samplesIn, violationsIn, abortIn]
  | @aborted count answer failure hread =>
      simp [tally, hread, samplesIn, violationsIn, abortIn, failureIn_of_error hread,
        rowsIn_of_error hread, dropsIn]
  | @taken count answer records rest hread hrest ih =>
      rw [abortIn_cons_of_ok hread, samplesIn_cons_of_ok hread, violationsIn_cons,
        rowsIn_of_ok hread]
      simp only [tally, hread]
      rw [ih]
      · simp [Nat.add_assoc, Nat.add_comm 1]
      · exact hopen

end Sampling

/-! ## The whole window -/

/-- What an opened window reports, from what its questions were answered. -/
def observedReport
    (linecard ingress : String) (before : Nat) (answers : List (Answered CommandOutput))
    (stopped : Answered Unit) (counted : Answered Nat) : DropReport where
  ingress := ingress
  packetsBefore := before
  packetsAfter := counted.toOption
  violations := violationsIn (TrapTable.command linecard) 0 answers
  samples := samplesIn (TrapTable.command linecard) answers
  aborted := abortIn (TrapTable.command linecard) answers
  errors := closingErrors ingress stopped counted

theorem windowReport_eq_observedReport
    {count : Nat} {linecard : String} {answers : List (Answered CommandOutput)}
    (hsampling : Sampling (TrapTable.command linecard) count answers)
    (ingress : String) (before : Nat) (stopped : Answered Unit) (counted : Answered Nat) :
    windowReport linecard ingress before answers stopped counted =
      observedReport linecard ingress before answers stopped counted := by
  rw [windowReport, hsampling.tally_eq 0 (openedReport ingress before) rfl]
  simp [closed, openedReport, observedReport]

/-- Against any device and generator a window asks for the counter alone, or for the
counter and for traffic, or goes through all its samples and closes. -/
theorem watch_trace
    {σ : Type} (bed : Responder bench σ) (state : σ) (start : Instant)
    (interval : Duration) (count : Nat) (linecard ingress : String) :
    let window := watch interval count linecard ingress
    let asked := window.exchangesWith bed start state
    let result := (window.answeredBy bed start state).1
    (∃ e,
      asked = [⟨.ingressPackets ingress, .error e⟩] ∧
        result = (some (.error (.during ("read counters of " ++ ingress) e)), start)) ∨
    (∃ before e,
      asked = [⟨.ingressPackets ingress, .ok before⟩, ⟨.startTraffic, .error e⟩] ∧
        result = (some (.error (.during "start traffic" e)), start)) ∨
    ∃ before answers stopped counted,
      asked = windowExchanges interval linecard ingress before answers stopped counted ∧
        result =
          (some (.ok (observedReport linecard ingress before answers stopped counted)),
            start.after (interval.times answers.length)) ∧
        answers.length ≤ count ∧
        answers.length =
          match abortIndex? (TrapTable.command linecard) answers with
          | some index => index + 1
          | none => count := by
  intro window asked result
  obtain ⟨outcome, houtcome, hrun⟩ :=
    exists_windowRun_of_runs_watch (Timed.runs_answeredBy window bed start state)
  have hresult : result = (some outcome, result.2) := Prod.ext houtcome rfl
  rw [hresult]
  change WindowRun interval count linecard ingress start asked outcome result.2 at hrun
  generalize asked = asked at hrun ⊢
  generalize result.2 = stop at hrun ⊢
  cases hrun with
  | uncounted e => exact .inl ⟨e, rfl, rfl⟩
  | unstarted before e => exact .inr (.inl ⟨before, e, rfl, rfl⟩)
  | @opened before answers stopped counted hsampling =>
      rw [windowReport_eq_observedReport hsampling]
      exact .inr (.inr ⟨before, answers, stopped, counted, rfl, rfl, hsampling.length_le,
        hsampling.length_eq_abortIndex⟩)

end DropWindow

end CardReboot
