import CardReboot.Proofs.ParallelCase
import CardReboot.Proofs.SkippedCase

/-!
# The password and the reports

Over processes that do not see the commands, two devices that differ in their password
alone answer alike, call for call, and cases on them come to the same reports.  What can
tell the password is the error for a call that could not be started: it quotes the call.
-/

namespace CardReboot

namespace Tool

/-! ## Calls in sequence -/

/-- Makes the requests one after the other and keeps the answers. -/
def requestAll : List BenchRequest → Dialogue bench (Transcript bench)
  | [] => .done []
  | q :: rest =>
      .ask (I := bench) q fun answer =>
        (requestAll rest).bind fun later => .done (⟨q, answer⟩ :: later)

/-- The same request, answered alike. -/
inductive ExchangeAlike (t t' : Target) : Exchange bench → Exchange bench → Prop
  | intro {q : BenchRequest} {answer answer' : q.Answer}
      (halike : AnswersAlike t t' q answer answer') :
      ExchangeAlike t t' ⟨q, answer⟩ ⟨q, answer'⟩

theorem parallel_requestAll (t t' : Target) (calls : List BenchRequest) :
    Parallel t t' (List.Forall₂ (ExchangeAlike t t')) (requestAll calls) (requestAll calls) := by
  induction calls with
  | nil => exact .done .nil
  | cons q rest ih =>
      apply Parallel.ask
      intro answer answer' halike
      apply ih.bind
      intro later later' hlater
      exact .done (.cons (.intro halike) hlater)

theorem eq_of_exchangesAlike
    {t t' : Target} {answers answers' : Transcript bench}
    (halike : List.Forall₂ (ExchangeAlike t t') answers answers')
    (hquotes : ∀ e ∈ answers, ¬ QuotesCall t e.question e.answer) : answers' = answers := by
  induction halike with
  | nil => rfl
  | cons hfirst hrest ih =>
      obtain ⟨hhead, htail⟩ := List.forall_mem_cons.mp hquotes
      obtain ⟨halike⟩ := hfirst
      rw [halike.eq hhead, ih htail]

/-- Where each request is carried out alike, dialogues in parallel run so. -/
theorem Parallel.run_carryOut
    {σ α : Type} {t t' : Target} {r : Responder host σ}
    {carry carry' : (q : bench.Question) → Dialogue host (bench.Answer q)}
    (hcarry : ∀ q state,
      AnswersAlike t t' q ((carry q).run r state).1 ((carry' q).run r state).1 ∧
        ((carry' q).run r state).2 = ((carry q).run r state).2)
    {ends : α → α → Prop} {d d' : Dialogue bench α} (hd : Parallel t t' ends d d') (state : σ) :
    ends ((d.carryOut carry).run r state).1 ((d'.carryOut carry').run r state).1 ∧
      ((d'.carryOut carry').run r state).2 = ((d.carryOut carry).run r state).2 := by
  induction hd generalizing state with
  | done hends => exact ⟨hends, rfl⟩
  | @ask q next next' hnext ih =>
      obtain ⟨halike, hstate⟩ := hcarry q state
      rw [Dialogue.carryOut, Dialogue.carryOut, Dialogue.run_bind, Dialogue.run_bind, hstate]
      exact ih _ _ halike _

end Tool

/-! ## Cases -/

namespace Campaign

def withPassword (c : Campaign) (password : String) : Campaign :=
  { c with configuration.target := c.configuration.target.withPassword password }

/-- What the cases ask of the bench does not depend on the password. -/
theorem runCases_withPassword (c : Campaign) (password : String) (cases : List RebootCase) :
    (c.withPassword password).runCases cases = c.runCases cases := by
  have hcase : ∀ case, (c.withPassword password).runCase case = c.runCase case := by
    intro case
    cases case <;> rfl
  induction cases with
  | nil => rfl
  | cons case rest ih => rw [runCases, runCases, hcase, ih]

/-- What the cases ask of the bench when the tools answer over these processes. -/
def benchExchanges
    {σ : Type} (c : Campaign) (source : Tool.ProcessSource σ) (cases : List RebootCase)
    (start : Instant) (state : σ) : Transcript bench :=
  (c.runCases cases).exchangesWith
    (source.responder.through (Tool.carry c.configuration.target c.configuration.traffic))
    start state

theorem run_onHost
    {σ : Type} (c : Campaign) (r : Responder host σ) (cases : List RebootCase) (start : Instant)
    (state : σ) :
    (c.onHost cases start).run r state =
      Prod.map Prod.fst id ((((c.runCases cases).startingAt start).carryOut
        (Tool.carry c.configuration.target c.configuration.traffic)).run r state) := by
  unfold onHost
  exact Dialogue.run_bind r _ _ state

theorem run_onHost_eq_answeredBy
    {σ : Type} (c : Campaign) (r : Responder host σ) (cases : List RebootCase) (start : Instant)
    (state : σ) :
    (c.onHost cases start).run r state =
      Prod.map Prod.fst id ((c.runCases cases).answeredBy
        (r.through (Tool.carry c.configuration.target c.configuration.traffic)) start state) := by
  rw [run_onHost]
  exact congrArg (Prod.map Prod.fst id) (Dialogue.run_carryOut (I := bench) r _ state)

end Campaign

namespace Tool

theorem retoldLines
    {t t' : Target} {reports reports' : Option (List CaseReport)}
    (hreports : Option.Rel (List.Forall₂ (RetoldReport t t')) reports reports') :
    Option.Rel (List.Forall₂ fun report report' =>
      RetoldReport t t' report report' ∧ Retold t t' report.line report'.line)
      reports reports' := by
  cases hreports with
  | some hretold => exact .some (hretold.imp fun _ _ hreport => ⟨hreport, hreport.line⟩)
  | none => exact .none

/-- Over processes that do not see the commands, and with passwords that can be handed to
a process, calls in any sequence are answered alike and cases come to the same reports in
other words at most, whatever the password is; and both are the same altogether unless a
call that could not be started is quoted in an answer. -/
theorem password_untold_unless_quoted
    {σ : Type} (source : ProcessSource σ) (t : Target) (password : String) (plan : TrafficPlan)
    (hold : Shell.isPassable t.password = true) (hnew : Shell.isPassable password = true) :
    (∀ (calls : List BenchRequest) (state : σ),
      let run := ((requestAll calls).carryOut (carry t plan)).run source.responder state
      let run' := ((requestAll calls).carryOut (carry (t.withPassword password) plan)).run
        source.responder state
      List.Forall₂ (ExchangeAlike t (t.withPassword password)) run.1 run'.1 ∧
        run'.2 = run.2 ∧
        ((∀ e ∈ run.1, ¬ QuotesCall t e.question e.answer) → run' = run)) ∧
    ∀ (c : Campaign) (cases : List RebootCase) (start : Instant) (state : σ),
      c.configuration.target = t →
      let run := (c.onHost cases start).run source.responder state
      let run' := ((c.withPassword password).onHost cases start).run source.responder state
      Option.Rel (List.Forall₂ fun report report' =>
          RetoldReport t (t.withPassword password) report report' ∧
            Retold t (t.withPassword password) report.line report'.line) run.1 run'.1 ∧
        run'.2 = run.2 ∧
        ((∀ e ∈ c.benchExchanges source cases start state,
          ¬ QuotesCall t e.question e.answer) → run' = run) := by
  have hcarry : ∀ (plan : TrafficPlan) (q : BenchRequest) (state : σ),
      AnswersAlike t (t.withPassword password) q
          ((carry t plan q).run source.responder state).1
          ((carry (t.withPassword password) plan q).run source.responder state).1 ∧
        ((carry (t.withPassword password) plan q).run source.responder state).2 =
          ((carry t plan q).run source.responder state).2 :=
    fun plan q state => (inStep_carry t password plan q).run_responder source hold hnew state
  constructor
  · intro calls state run run'
    obtain ⟨halike, hstate⟩ :=
      (parallel_requestAll t (t.withPassword password) calls).run_carryOut (hcarry plan) state
    refine ⟨halike, hstate, fun hquotes => ?_⟩
    exact Prod.ext (eq_of_exchangesAlike halike hquotes) hstate
  · rintro c cases start state rfl run run'
    obtain ⟨⟨hreports, -⟩, hstate⟩ :=
      (c.parallel_runCases cases start).run_carryOut (hcarry c.configuration.traffic) state
    have hrun : run = _ := c.run_onHost source.responder cases start state
    have hrun' : run' = _ :=
      (c.withPassword password).run_onHost source.responder cases start state
    rw [Campaign.runCases_withPassword] at hrun'
    clear_value run run'
    subst hrun hrun'
    refine ⟨retoldLines hreports, hstate, fun hquotes => ?_⟩
    exact congrArg (Prod.map Prod.fst id)
      (run_carryOut_withPassword source hold hnew c.configuration.traffic hquotes)

end Tool

/-! ## Cards that are not listed -/

namespace Campaign

/-- The report of a case that cannot list the cards. -/
def unlistedReport (start : Instant) (e : DeviceError) (case : RebootCase) : CaseReport :=
  ⟨case, .failed (.during ("list " ++ case.cardType.name ++ " components") e),
    start.since start⟩

/-- A case begins with the question which cards there are, and ends where that fails. -/
theorem startingAt_runCase_of_unlisted
    {c : Campaign} (hfabric : c.configuration.deviations.fabricRebootUnsupported = false)
    (case : RebootCase) (start : Instant) :
    ∃ next, (c.runCase case).startingAt start =
        (Bench.componentNames case.cardType).bind next ∧
      ∀ e, next (.error e) = .done (some (unlistedReport start e case), start) := by
  cases case with
  | standbyController => exact ⟨_, rfl, fun e => rfl⟩
  | linecard => exact ⟨_, rfl, fun e => rfl⟩
  | fabric =>
      unfold runCase
      rw [steps_eq, prepare, hfabric]
      exact ⟨_, rfl, fun e => rfl⟩

section Unlisted

variable {σ : Type} (c : Campaign) {bed : Responder bench σ} {e : DeviceError} {state : σ}
  (hfabric : c.configuration.deviations.fabricRebootUnsupported = false)
  (hnames : ∀ type, bed.reply (.componentNames type) state = (.error e, state))

include hfabric hnames

theorem runCase_of_unlisted (case : RebootCase) (start : Instant) :
    (c.runCase case).answeredBy bed start state =
        ((some (unlistedReport start e case), start), state) ∧
      (c.runCase case).exchangesWith bed start state =
        [⟨.componentNames case.cardType, (.error e : Answered (List String))⟩] := by
  obtain ⟨next, hcase, hend⟩ := startingAt_runCase_of_unlisted hfabric case start
  have hasked : (Bench.componentNames case.cardType).run bed state = (.error e, state) :=
    hnames case.cardType
  have htranscript : (Bench.componentNames case.cardType).transcript bed state =
      [⟨.componentNames case.cardType, (.error e : Answered (List String))⟩] := by
    change [Exchange.mk _ (bed.reply (.componentNames case.cardType) state).1] = _
    rw [hnames]
  constructor
  · rw [Timed.answeredBy, hcase, Dialogue.run_bind, hasked, hend, Dialogue.run_done]
  · rw [Timed.exchangesWith, hcase, Dialogue.transcript_bind, hasked, hend, htranscript]
    rfl

/-- Where no cards can be listed, each case asks for them and fails. -/
theorem runCases_of_unlisted (cases : List RebootCase) (start : Instant) :
    (c.runCases cases).answeredBy bed start state =
        ((some (cases.map (unlistedReport start e)), start), state) ∧
      (c.runCases cases).exchangesWith bed start state =
        cases.map fun case =>
          ⟨.componentNames case.cardType, (.error e : Answered (List String))⟩ := by
  induction cases with
  | nil => exact ⟨rfl, rfl⟩
  | cons case rest ih =>
      obtain ⟨hreport, hasked⟩ := c.runCase_of_unlisted hfabric hnames case start
      obtain ⟨hreports, hrest⟩ := ih
      rw [runCases]
      constructor
      · rw [Timed.answeredBy_bind_of_some _ _ _ hreport,
          Timed.answeredBy_bind_of_some _ _ _ hreports]
        rfl
      · rw [Timed.exchangesWith_bind_of_some _ _ _ hreport,
          Timed.exchangesWith_bind_of_some _ _ _ hreports, hasked, hrest,
          Timed.exchangesWith_pure, List.append_nil]
        rfl

end Unlisted

end Campaign

namespace Tool

theorem ProcessSource.run_hostRun
    {σ : Type} (source : ProcessSource σ) (command : String) (state : σ) :
    (Host.run command).run source.responder state = source.start command state := rfl

/-- Every process fails because it does not reach the device. -/
def unreachableDevice : ProcessSource Unit where
  next _ := (.ok ⟨1, "", "connection refused"⟩, ())
  wait _ _ := ()

theorem reply_componentNames
    {σ : Type} (r : Responder host σ) (t : Target) (plan : TrafficPlan) (type : ComponentType)
    (state : σ) :
    (r.through (I := bench) (carry t plan)).reply (BenchRequest.componentNames type) state =
      (readComponentNames t type).run r state := rfl

theorem reply_componentNames_unreachableDevice
    {t : Target} (hcall : Shell.isPassable (getCommand t typePath) = true) (plan : TrafficPlan)
    (type : ComponentType) :
    (unreachableDevice.responder.through (I := bench) (carry t plan)).reply
        (BenchRequest.componentNames type) () =
      (.error (.transport "Get" "connection refused"), ()) := by
  have hstart : unreachableDevice.start (getCommand t typePath) () =
      (.ok ⟨1, "", "connection refused"⟩, ()) := by
    rw [ProcessSource.start, if_pos hcall]
    rfl
  rw [reply_componentNames]
  unfold readComponentNames get
  rw [Dialogue.bind_eq, Dialogue.bind_eq, Dialogue.run_bind, Dialogue.run_bind,
    unreachableDevice.run_hostRun, hstart]
  rfl

def bareCampaign : Campaign := ⟨{}, false, 0⟩

/-- Each of the three cases makes one call, learns that the device cannot be reached, and
reports just that. -/
theorem password_untold_by_unreachableDevice :
    Shell.isPassable "" = true ∧ Shell.isPassable "x" = true ∧
      ((bareCampaign.withPassword "x").onHost RebootCase.all ⟨0⟩).run
          unreachableDevice.responder () =
        (bareCampaign.onHost RebootCase.all ⟨0⟩).run unreachableDevice.responder () ∧
      (bareCampaign.onHost RebootCase.all ⟨0⟩).run unreachableDevice.responder () =
        (some (RebootCase.all.map
          (Campaign.unlistedReport ⟨0⟩ (.transport "Get" "connection refused"))), ()) := by
  have hold : Shell.isPassable "" = true := by decide
  have hnew : Shell.isPassable "x" = true := by decide
  have hcall : Shell.isPassable (getCommand {} typePath) = true := by decide +kernel
  obtain ⟨hreports, hexchanges⟩ := bareCampaign.runCases_of_unlisted rfl
    (reply_componentNames_unreachableDevice hcall {}) RebootCase.all ⟨0⟩
  have hsame := ((password_untold_unless_quoted unreachableDevice {} "x" {} hold hnew).2
    bareCampaign RebootCase.all ⟨0⟩ () rfl).2.2
  refine ⟨hold, hnew, hsame ?_, ?_⟩
  · intro exchange hmem hquotes
    have hlisted : exchange ∈ RebootCase.all.map fun case => ⟨.componentNames case.cardType,
        (.error (.transport "Get" "connection refused") : Answered (List String))⟩ :=
      hexchanges ▸ hmem
    obtain ⟨case, -, rfl⟩ := List.mem_map.mp hlisted
    obtain ⟨i, told, -, hquote⟩ := hquotes
    cases hquote
  · rw [Campaign.run_onHost_eq_answeredBy]
    exact congrArg (Prod.map Prod.fst id) hreports

/-! ## A call that cannot be started -/

theorem isPassable_getCommand
    (t : Target) {path : String} (hpath : Shell.isPassable path = false) :
    Shell.isPassable (getCommand t path) = false := by
  unfold getCommand
  rw [Shell.isPassable_append, Shell.isPassable_append, Shell.isPassable_quoteArgument, hpath,
    Bool.and_false, Bool.false_and]

theorem isPassable_statePath
    {component : String} (hname : Shell.isPassable component = false) (leaf : String) :
    Shell.isPassable (statePath component leaf) = false := by
  unfold statePath
  rw [Shell.isPassable_append, Shell.isPassable_append, Shell.isPassable_append, hname,
    Bool.and_false, Bool.false_and, Bool.false_and]

/-- A card whose name holds the character zero has no state that can be read: the first
call about it cannot be started, and the error quotes it. -/
theorem run_readComponentState_of_impassable
    {σ : Type} (source : ProcessSource σ) (t : Target) {component : String}
    (hname : Shell.isPassable component = false) (state : σ) :
    (readComponentState t component).run source.responder state =
      (.error (Shell.impassable (getCommand t (statePath component "removable"))), state) := by
  have hcommand := isPassable_getCommand t (isPassable_statePath hname "removable")
  have hstart : source.start (getCommand t (statePath component "removable")) state =
      (.error (Shell.impassable (getCommand t (statePath component "removable"))), state) := by
    rw [ProcessSource.start, hcommand]
    rfl
  have hleaf : (leaf t (statePath component "removable")).run source.responder state =
      (.error (Shell.impassable (getCommand t (statePath component "removable"))), state) := by
    unfold leaf get
    rw [Dialogue.bind_eq, Dialogue.bind_eq, Dialogue.run_bind, Dialogue.run_bind,
      source.run_hostRun, hstart]
    rfl
  unfold readComponentState
  rw [Dialogue.bind_eq, Dialogue.run_bind, hleaf]
  rfl

theorem unstarted_call_tells_password :
    ((readComponentState { password := "x" } "a\x00b").run unreachableDevice.responder ()).1 =
        .error (.shellExec
          ("gnmic -a \"127.0.0.1:9339\" -u \"admin\" -p \"x\" --insecure get --path " ++
            "\"/components/component[name=a\x00b]/state/removable\" --format json")
          "nul byte found in provided data") ∧
      ¬ ∀ (t : Target) (password component : String) (σ : Type) (source : ProcessSource σ)
          (state : σ),
        Shell.isPassable t.password = true → Shell.isPassable password = true →
          ((readComponentState (t.withPassword password) component).run source.responder
              state).1 =
            ((readComponentState t component).run source.responder state).1 := by
  have hname : Shell.isPassable "a\x00b" = false := by decide
  have hcommands :
      getCommand { password := "x" } (statePath "a\x00b" "removable") ≠
        getCommand {} (statePath "a\x00b" "removable") := by
    decide +kernel
  constructor
  · have hcommand : getCommand { password := "x" } (statePath "a\x00b" "removable") =
        "gnmic -a \"127.0.0.1:9339\" -u \"admin\" -p \"x\" --insecure get --path " ++
          "\"/components/component[name=a\x00b]/state/removable\" --format json" := by
      decide +kernel
    rw [run_readComponentState_of_impassable _ _ hname, Shell.impassable, hcommand]
  · intro hclaim
    have hsame := hclaim {} "x" "a\x00b" Unit unreachableDevice () (by decide) (by decide)
    rw [run_readComponentState_of_impassable _ _ hname,
      run_readComponentState_of_impassable _ _ hname] at hsame
    have hquoted := DeviceError.shellExec.inj (Except.error.inj hsame)
    exact hcommands hquoted.1

end Tool

end CardReboot
