import CardReboot.Proofs.CarriedOut
import CardReboot.Proofs.SkippedCase

/-!
# Faults behind state queries

A state query is answered by processes on the host.  One that could not be run, or that
failed without the words for an absent path, is a fault, and a fault makes the query fail:
no value and no absence is read from it.  So no case is skipped because of a fault.  But
the words alone decide, whatever the exit code: a failure that contains them is read as
the absence of the path, also when it is the shell that did not find the tool.
-/

namespace CardReboot.Tool

open Dialogue

/-! ## Processes -/

/-- The processes in a transcript, each by what it left behind. -/
def processes (transcript : Transcript host) : List (Answered ProcessResult) :=
  transcript.filterMap fun
    | ⟨.run _, process⟩ => some process
    | ⟨.pause _, _⟩ => none

theorem mem_processes_append
    {before after : Transcript host} {process : Answered ProcessResult} :
    process ∈ processes (before ++ after) ↔
      process ∈ processes before ∨ process ∈ processes after := by
  rw [processes, List.filterMap_append, List.mem_append]
  rfl

/-- The process could not be run, or it failed and did not say that a path is absent. -/
def IsFault : Answered ProcessResult → Prop
  | .error _ => True
  | .ok result => result.exitCode ≠ 0 ∧ tellsOfAbsence result.combined = false

/-- The process failed and said that a path is absent. -/
def TellsAbsence : Answered ProcessResult → Prop
  | .error _ => False
  | .ok result => result.exitCode ≠ 0 ∧ tellsOfAbsence result.combined = true

/-- The values that a process reports under a path. -/
def valuesRead (path : String) : Answered ProcessResult → Answered (List Update)
  | .error e => .error e
  | .ok result =>
      if result.succeeded then Update.decode path result.output
      else if tellsOfAbsence result.combined then .ok []
      else .error (complaintError "Get" result.combined)

theorem not_isFault_of_valuesRead
    {path : String} {process : Answered ProcessResult} {updates : List Update}
    (hread : valuesRead path process = .ok updates) : ¬ IsFault process := by
  rcases process with e | result
  · cases hread
  · rintro ⟨hexit, hwords⟩
    have hfailed : result.succeeded = false := beq_false_of_ne hexit
    simp [valuesRead, hfailed, hwords] at hread

theorem valuesRead_of_tellsAbsence
    {path : String} {process : Answered ProcessResult} (habsence : TellsAbsence process) :
    valuesRead path process = .ok [] := by
  rcases process with e | result
  · exact habsence.elim
  · obtain ⟨hexit, hwords⟩ := habsence
    have hfailed : result.succeeded = false := beq_false_of_ne hexit
    simp [valuesRead, hfailed, hwords]

theorem get_eq (t : Target) (path : String) :
    get t path =
      (Host.run (getCommand t path)).bind fun process => .done (valuesRead path process) := by
  change (Host.run (getCommand t path)).bind _ = _
  congr 1
  funext process
  rcases process with e | result
  · rfl
  · dsimp only [valuesRead]
    split
    · rfl
    · split <;> rfl

theorem get_produces_iff
    {t : Target} {path : String} {transcript : Transcript host}
    {answer : Answered (List Update)} :
    (get t path).Produces transcript answer ↔
      ∃ process, transcript = [⟨.run (getCommand t path), process⟩] ∧
        answer = valuesRead path process := by
  rw [get_eq]
  constructor
  · intro hproduces
    obtain ⟨process, rest, rfl, hrest⟩ := produces_question_bind_iff.mp hproduces
    obtain ⟨rfl, rfl⟩ := produces_done_iff.mp hrest
    exact ⟨process, rfl, rfl⟩
  · rintro ⟨process, rfl, rfl⟩
    exact .ask (.done _)

/-! ## State queries -/

/-- A fault makes the query fail, and where every process tells of an absence the answer
is that there is nothing. -/
structure ReadsState {α : Type} (d : Dialogue host (Answered α)) (nothing : Answered α) :
    Prop where
  fault : ∀ transcript answer, d.Produces transcript answer →
    ∀ process ∈ processes transcript, IsFault process → ∃ e, answer = .error e
  absence : ∀ transcript answer, d.Produces transcript answer →
    (∀ process ∈ processes transcript, TellsAbsence process) → answer = nothing

namespace ReadsState

variable {α β : Type} {t : Target}

theorem done (nothing : Answered α) : ReadsState (.done nothing) nothing := by
  constructor
  · intro transcript answer hproduces process hmem
    obtain ⟨rfl, -⟩ := produces_done_iff.mp hproduces
    cases hmem
  · intro transcript answer hproduces _
    exact (produces_done_iff.mp hproduces).2

/-- A query that goes on with what another one read, and fails when that one failed. -/
theorem bind
    {d : Dialogue host (Answered α)} {f : Answered α → Dialogue host (Answered β)}
    {none : α} (hd : ReadsState d (.ok none)) {g : α → Answered β}
    (herror : ∀ e, f (.error e) = .done (.error e))
    (hok : ∀ a, ReadsState (f (.ok a)) (g a)) : ReadsState (d >>= f) (g none) := by
  constructor
  · intro transcript answer hproduces process hmem hfault
    obtain ⟨before, after, found, rfl, hbefore, hafter⟩ := produces_bind_iff.mp hproduces
    rcases found with e | a
    · rw [herror e] at hafter
      exact ⟨e, (produces_done_iff.mp hafter).2⟩
    · rcases mem_processes_append.mp hmem with hfirst | hlater
      · obtain ⟨e, he⟩ := hd.fault _ _ hbefore process hfirst hfault
        cases he
      · exact (hok a).fault _ _ hafter process hlater hfault
  · intro transcript answer hproduces habsence
    obtain ⟨before, after, found, rfl, hbefore, hafter⟩ := produces_bind_iff.mp hproduces
    have hfound := hd.absence _ _ hbefore fun process hmem =>
      habsence process (mem_processes_append.mpr (.inl hmem))
    rw [hfound] at hafter
    exact (hok none).absence _ _ hafter fun process hmem =>
      habsence process (mem_processes_append.mpr (.inr hmem))

theorem get (path : String) : ReadsState (Tool.get t path) (.ok []) := by
  constructor
  · intro transcript answer hproduces process hmem hfault
    obtain ⟨ran, rfl, rfl⟩ := get_produces_iff.mp hproduces
    obtain rfl := List.mem_singleton.mp hmem
    rcases hread : valuesRead path process with e | updates
    · exact ⟨e, rfl⟩
    · exact absurd hfault (not_isFault_of_valuesRead hread)
  · intro transcript answer hproduces habsence
    obtain ⟨ran, rfl, rfl⟩ := get_produces_iff.mp hproduces
    exact valuesRead_of_tellsAbsence (habsence ran List.mem_cons_self)

theorem leaf (path : String) : ReadsState (Tool.leaf t path) (.ok none) := by
  unfold Tool.leaf
  apply (get path).bind (g := fun updates => .ok (updates.head?.map Update.value)) fun _ => rfl
  intro updates
  exact done _

theorem readComponentNames (type : ComponentType) :
    ReadsState (Tool.readComponentNames t type) (.ok []) := by
  unfold Tool.readComponentNames
  apply (get typePath).bind (g := fun updates => .ok (componentNames type updates))
    fun _ => rfl
  intro updates
  exact done _

theorem readComponentState (component : String) :
    ReadsState (Tool.readComponentState t component) (.ok {}) := by
  unfold Tool.readComponentState
  apply (leaf _).bind (g := fun removable => .ok (stateOf removable none none none))
    fun _ => rfl
  intro removable
  apply (leaf _).bind (g := fun empty => .ok (stateOf removable empty none none)) fun _ => rfl
  intro empty
  apply (leaf _).bind (g := fun role => .ok (stateOf removable empty role none)) fun _ => rfl
  intro role
  apply (leaf _).bind (g := fun status => .ok (stateOf removable empty role status))
    fun _ => rfl
  intro status
  exact done _

theorem readInterfaceNames : ReadsState (Tool.readInterfaceNames t) (.ok []) := by
  unfold Tool.readInterfaceNames
  apply (get interfaceNamePath).bind (g := fun updates => .ok (interfaceNames updates))
    fun _ => rfl
  intro updates
  exact done _

theorem readInterfaceStatus (interface : String) :
    ReadsState (Tool.readInterfaceStatus t interface) (.ok .unknown) := by
  unfold Tool.readInterfaceStatus
  apply (leaf _).bind
    (g := fun value =>
      .ok (((value.bind Update.text?).map InterfaceStatus.parse).getD .unknown)) fun _ => rfl
  intro value
  exact done _

theorem readIngressPackets (interface : String) :
    ReadsState (Tool.readIngressPackets t interface)
      (.error (.decode (interfacePath interface "counters/in-pkts")
        "in-pkts not reported")) := by
  unfold Tool.readIngressPackets
  apply (leaf _).bind
    (g := fun value =>
      (value.bind Update.counter?).elim
        (.error (.decode (interfacePath interface "counters/in-pkts") "in-pkts not reported"))
        .ok) fun _ => rfl
  intro value
  dsimp only
  generalize value.bind Update.counter? = counter
  cases counter <;> exact done _

end ReadsState

/-! ## Cases over the tools -/

/-- The case as it is carried out on the host. -/
def caseOnHost
    (t : Target) (plan : TrafficPlan) (c : Campaign) (case : RebootCase) (start : Instant) :
    Dialogue host (Option CaseReport × Instant) :=
  ((c.runCase case).startingAt start).carryOut (carry t plan)

section Cases

variable {t : Target} {plan : TrafficPlan}

theorem not_isFault_of_carriedOut
    {asked : Transcript bench} {transcript : Transcript host}
    (hcarried : CarriedOut (I := bench) (carry t plan) asked transcript)
    (hsegments : ∀ e ∈ asked, ∀ segment, (carry t plan e.question).Produces segment e.answer →
      ∀ process ∈ processes segment, ¬ IsFault process) :
    ∀ process ∈ processes transcript, ¬ IsFault process := by
  induction hcarried with
  | nil =>
      intro process hmem
      cases hmem
  | @cons e segment asked rest hsegment hrest ih =>
      obtain ⟨hfirst, hlater⟩ := List.forall_mem_cons.mp hsegments
      intro process hmem
      rcases mem_processes_append.mp hmem with hbefore | hafter
      · exact hfirst segment hsegment process hbefore
      · exact ih hlater process hafter

/-- An inventory that was read rests on no fault. -/
theorem not_isFault_of_isReadIn
    {inventory : Inventory} {type : ComponentType} {asked : Transcript bench}
    {transcript : Transcript host} (hread : inventory.IsReadIn type asked)
    (hcarried : CarriedOut (I := bench) (carry t plan) asked transcript) :
    ∀ process ∈ processes transcript, ¬ IsFault process := by
  obtain ⟨readings, rfl, -⟩ := hread
  apply not_isFault_of_carriedOut hcarried
  intro e hmem segment hsegment process hprocess hfault
  rcases List.mem_cons.mp hmem with rfl | hstates
  · obtain ⟨failure, hfailure⟩ :=
      (ReadsState.readComponentNames type).fault _ _ hsegment process hprocess hfault
    cases hfailure
  · obtain ⟨reading, -, rfl⟩ := List.mem_map.mp hstates
    obtain ⟨failure, hfailure⟩ :=
      (ReadsState.readComponentState reading.1).fault _ _ hsegment process hprocess hfault
    cases hfailure

/-- Where packets are watched whenever they have to be, no case is skipped after a
fault. -/
theorem not_isFault_of_skipped
    {c : Campaign} {case : RebootCase} {start stop : Instant} {transcript : Transcript host}
    {report : CaseReport} {reason : String}
    (hwatched : c.configuration.vendor = .juniper → c.hasGenerator = true)
    (hproduces : (caseOnHost t plan c case start).Produces transcript (some report, stop))
    (hskipped : report.verdict = .skipped reason) :
    ∀ process ∈ processes transcript, ¬ IsFault process := by
  obtain ⟨asked, hasked, hcarried⟩ := exists_of_produces_carryOut hproduces
  cases Campaign.skipRun_of_runs_runCase hasked hskipped with
  | unsupported hunsupported =>
      cases hcarried
      intro process hmem
      cases hmem
  | unsuited hread hreason => exact not_isFault_of_isReadIn hread hcarried
  | unwatched hvendor hgenerator hprepared => exact absurd (hwatched hvendor) hgenerator

end Cases

/-- A fault behind a state query is never read as a value or as an absence, and so it
never makes a case end skipped; a failure in the words for an absent path always is. -/
theorem faults_fail_queries (t : Target) (plan : TrafficPlan) :
    (∀ type, ReadsState (readComponentNames t type) (.ok [])) ∧
    (∀ component, ReadsState (readComponentState t component) (.ok {})) ∧
    ReadsState (readInterfaceNames t) (.ok []) ∧
    (∀ interface, ReadsState (readInterfaceStatus t interface) (.ok .unknown)) ∧
    (∀ interface, ReadsState (readIngressPackets t interface)
      (.error (.decode (interfacePath interface "counters/in-pkts")
        "in-pkts not reported"))) ∧
    ∀ (c : Campaign) case start transcript report stop reason,
      (c.configuration.vendor = .juniper → c.hasGenerator = true) →
      (caseOnHost t plan c case start).Produces transcript (some report, stop) →
      report.verdict = .skipped reason →
        ∀ process ∈ processes transcript, ¬ IsFault process := by
  refine ⟨ReadsState.readComponentNames, ReadsState.readComponentState,
    ReadsState.readInterfaceNames, ReadsState.readInterfaceStatus,
    ReadsState.readIngressPackets, ?_⟩
  intro c case start transcript report stop reason hwatched hproduces hskipped
  exact not_isFault_of_skipped hwatched hproduces hskipped

/-! ## A missing tool -/

/-- What the shell leaves behind when it does not find the tool. -/
def missingTool : ProcessResult := ⟨127, "", "/bin/sh: 1: gnmic: not found"⟩

/-- The complaint of the shell has the words for an absent path: no fabric card is found,
and the case is skipped. -/
theorem missing_tool_read_as_absence :
    (readComponentNames {} .fabric).Produces
        [⟨.run (getCommand {} typePath), .ok missingTool⟩] (.ok []) ∧
      (caseOnHost {} {} ⟨{}, false, 0⟩ .fabric ⟨0⟩).Produces
        [⟨.run (getCommand {} typePath), .ok missingTool⟩]
        (some ⟨.fabric, .skipped "No removable FABRIC component found for the testing", ⟨0⟩⟩,
          ⟨0⟩) ∧
      ¬ ∀ (t : Target) (type : ComponentType) (transcript : Transcript host)
          (answer : Answered (List String)),
        (readComponentNames t type).Produces transcript answer →
        (∃ result : ProcessResult,
          .ok result ∈ processes transcript ∧ result.exitCode = 127) →
            ∃ e, answer = .error e := by
  have hnames : (readComponentNames {} .fabric).Produces
      [⟨.run (getCommand {} typePath), .ok missingTool⟩] (.ok []) :=
    .ask (.done _)
  refine ⟨hnames, .ask (.done _), ?_⟩
  intro hclaim
  obtain ⟨e, he⟩ :=
    hclaim {} .fabric _ _ hnames ⟨missingTool, List.mem_cons_self, rfl⟩
  cases he

end CardReboot.Tool
