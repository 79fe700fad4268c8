import CardReboot.Proofs.CaseRun
import CardReboot.Proofs.PasswordSecrecy
import Mathlib.Data.List.Forall2

/-!
# Cases in parallel

What a case makes of an answer depends on its kind and not on the words of an error.  So
where two runs are answered alike, they ask the same and come to the same verdicts in the
same time, and the texts of their reports differ only in the calls that errors quote.
-/

namespace CardReboot

/-- Related values, or related errors. -/
inductive Paired {ε α : Type} (errors : ε → ε → Prop) (values : α → α → Prop) :
    Except ε α → Except ε α → Prop
  | ok {a a' : α} (hvalues : values a a') : Paired errors values (.ok a) (.ok a')
  | error {e e' : ε} (herrors : errors e e') : Paired errors values (.error e) (.error e')

/-! ## The words of errors -/

theorem DeviceError.message_shellExec (command source : String) :
    (shellExec command source).message =
      "Failed to execute shell command '" ++ command ++ "': " ++ source := rfl

namespace Failure

theorem message_during (operation : String) (e : DeviceError) :
    (during operation e).message = operation ++ " failed: " ++ e.message := rfl

theorem message_timeout (what : String) (limit elapsed : Duration) (lastObserved : String) :
    (timeout what limit elapsed lastObserved).message =
      what ++ " did not reach target state within " ++ limit.text ++ " (waited " ++
        elapsed.text ++ "): last observed " ++ lastObserved := rfl

theorem message_multiple (failures : List Failure) :
    (multiple failures).message =
      failures.length.repr ++ " checks failed: " ++ "; ".intercalate (messages failures) := rfl

end Failure

namespace Tool

/-! ## Texts with calls in them -/

/-- The same text, but for calls with a password that each side tells in its own words. -/
inductive Retold (t t' : Target) : String → String → Prop
  | same (text : String) : Retold t t' text text
  | call {i : Invocation} (hpassword : i.HoldsPassword) :
      Retold t t' (i.command t) (i.command t')
  | append {first first' second second' : String} (hfirst : Retold t t' first first')
      (hsecond : Retold t t' second second') :
      Retold t t' (first ++ second) (first' ++ second')

/-- The same error, or one about a command that was not started and that is told so. -/
inductive RetoldError (t t' : Target) : DeviceError → DeviceError → Prop
  | same (e : DeviceError) : RetoldError t t' e e
  | unstarted {command command' : String} (hcommand : Retold t t' command command')
      (reason : String) :
      RetoldError t t' (.shellExec command reason) (.shellExec command' reason)

def RetoldFailure (t t' : Target) (failure failure' : Failure) : Prop :=
  Retold t t' failure.message failure'.message

section Texts

variable {t t' : Target}

theorem Retold.intercalate
    (separator : String) {texts texts' : List String}
    (htexts : List.Forall₂ (Retold t t') texts texts') :
    Retold t t' (separator.intercalate texts) (separator.intercalate texts') := by
  induction htexts with
  | nil => exact .same _
  | @cons text text' rest rest' htext hrest ih =>
      cases hrest with
      | nil => exact htext
      | cons hnext hlater =>
          rw [String.intercalate_cons_cons, String.intercalate_cons_cons]
          exact (htext.append (.same separator)).append ih

theorem Alike.paired
    {α : Type} {answer answer' : Answered α} (halike : Alike t t' answer answer') :
    Paired (RetoldError t t') Eq answer answer' := by
  cases halike with
  | same answer =>
      rcases answer with e | a
      · exact .error (.same e)
      · exact .ok rfl
  | unstarted hpassword reason => exact .error (.unstarted (.call hpassword) reason)

namespace RetoldError

variable {e e' : DeviceError} (herror : RetoldError t t' e e')
include herror

theorem message : Retold t t' e.message e'.message := by
  cases herror with
  | same e => exact .same _
  | unstarted hcommand reason =>
      rw [DeviceError.message_shellExec, DeviceError.message_shellExec]
      exact (((Retold.same _).append hcommand).append (.same _)).append (.same _)

theorem isUnimplemented_eq : e'.isUnimplemented = e.isUnimplemented := by
  cases herror <;> rfl

theorem during (operation : String) :
    RetoldFailure t t' (.during operation e) (.during operation e') := by
  rw [RetoldFailure, Failure.message_during, Failure.message_during]
  exact ((Retold.same _).append (.same _)).append herror.message

theorem rebootFailure (card : String) :
    RetoldFailure t t' (Campaign.rebootFailure card e) (Campaign.rebootFailure card e') := by
  cases herror with
  | same e => exact Retold.same _
  | unstarted hcommand reason =>
      exact (RetoldError.unstarted hcommand reason).during ("reboot of " ++ card)

end RetoldError

theorem RetoldFailure.messages
    {failures failures' : List Failure}
    (hfailures : List.Forall₂ (RetoldFailure t t') failures failures') :
    List.Forall₂ (Retold t t') (Failure.messages failures) (Failure.messages failures') := by
  induction hfailures with
  | nil => exact .nil
  | cons hfailure hrest ih => exact .cons hfailure ih

theorem RetoldFailure.ofList?
    {failures failures' : List Failure}
    (hfailures : List.Forall₂ (RetoldFailure t t') failures failures') :
    Option.Rel (RetoldFailure t t') (Failure.ofList? failures)
      (Failure.ofList? failures') := by
  cases hfailures with
  | nil => exact .none
  | @cons failure failure' rest rest' hfailure hrest =>
      cases hrest with
      | nil => exact .some hfailure
      | cons hnext hlater =>
          have hall := List.Forall₂.cons hfailure (.cons hnext hlater)
          have htexts := Retold.intercalate "; " (RetoldFailure.messages hall)
          refine .some ?_
          rw [RetoldFailure, Failure.message_multiple, Failure.message_multiple, hall.length_eq]
          exact ((Retold.same _).append (.same _)).append htexts

end Texts

/-! ## Procedures in parallel -/

/-- Both sides ask the same, and where they are answered alike they end in such a pair of
results. -/
inductive Parallel {α : Type} (t t' : Target) (ends : α → α → Prop) :
    Dialogue bench α → Dialogue bench α → Prop
  | done {a a' : α} (hends : ends a a') : Parallel t t' ends (.done a) (.done a')
  | ask {q : bench.Question} {next next' : bench.Answer q → Dialogue bench α}
      (hnext : ∀ answer answer', AnswersAlike t t' q answer answer' →
        Parallel t t' ends (next answer) (next' answer')) :
      Parallel t t' ends (.ask q next) (.ask q next')

/-- Both sides take the same time, and end in such a pair or are both abandoned. -/
def ParallelTimed {α : Type} (t t' : Target) (ends : α → α → Prop)
    (p p' : Timed bench α) : Prop :=
  ∀ start, Parallel t t'
    (fun found found' => Option.Rel ends found.1 found'.1 ∧ found'.2 = found.2)
    (p.startingAt start) (p'.startingAt start)

/-- A case is left for the same reason, or with failures of the same kind. -/
inductive RetoldExit (t t' : Target) : Exit → Exit → Prop
  | skip (reason : String) : RetoldExit t t' (.skip reason) (.skip reason)
  | fail {failure failure' : Failure} (hfailure : RetoldFailure t t' failure failure') :
      RetoldExit t t' (.fail failure) (.fail failure')

abbrev ParallelStep {α : Type} (t t' : Target) (ends : α → α → Prop)
    (p p' : Step α) : Prop :=
  ParallelTimed t t' (Paired (RetoldExit t t') ends) p.run p'.run

section Parallel

variable {t t' : Target} {α β : Type}

namespace Parallel

theorem bind
    {middle : α → α → Prop} {ends : β → β → Prop} {d d' : Dialogue bench α}
    {f f' : α → Dialogue bench β} (hd : Parallel t t' middle d d')
    (hf : ∀ a a', middle a a' → Parallel t t' ends (f a) (f' a')) :
    Parallel t t' ends (d >>= f) (d' >>= f') := by
  induction hd with
  | done hends => exact hf _ _ hends
  | ask hnext ih => exact .ask ih

theorem question
    (q : BenchRequest) {ends : q.Answer → q.Answer → Prop}
    (hends : ∀ answer answer', AnswersAlike t t' q answer answer' → ends answer answer') :
    Parallel t t' ends (Dialogue.question (I := bench) q) (Dialogue.question (I := bench) q) :=
  .ask fun answer answer' halike => .done (hends answer answer' halike)

end Parallel

namespace ParallelTimed

theorem pure {ends : α → α → Prop} {a a' : α} (hends : ends a a') :
    ParallelTimed t t' ends (pure a) (pure a') :=
  fun _ => .done ⟨.some hends, rfl⟩

theorem abandoned {ends : α → α → Prop} :
    ParallelTimed t t' ends (Timed.abandoned : Timed bench α) Timed.abandoned :=
  fun _ => .done ⟨.none, rfl⟩

theorem now : ParallelTimed t t' Eq (Timed.now : Timed bench Instant) Timed.now :=
  fun _ => .done ⟨.some rfl, rfl⟩

theorem pause (d : Duration) :
    ParallelTimed t t' Eq (Timed.pause d : Timed bench Unit) (Timed.pause d) :=
  fun _ => .ask (q := .pause d) fun _ _ _ => .done ⟨.some rfl, rfl⟩

theorem bind
    {middle : α → α → Prop} {ends : β → β → Prop} {p p' : Timed bench α}
    {f f' : α → Timed bench β} (hp : ParallelTimed t t' middle p p')
    (hf : ∀ a a', middle a a' → ParallelTimed t t' ends (f a) (f' a')) :
    ParallelTimed t t' ends (p >>= f) (p' >>= f') := by
  intro start
  rw [Timed.startingAt_bind, Timed.startingAt_bind]
  apply (hp start).bind
  rintro ⟨found, stop⟩ ⟨found', stop'⟩ ⟨hfound, hstop⟩
  obtain rfl : stop' = stop := hstop
  cases hfound with
  | none => exact .done ⟨.none, rfl⟩
  | some hmiddle => exact hf _ _ hmiddle stop'

theorem now_bind
    {ends : α → α → Prop} {f f' : Instant → Timed bench α}
    (hf : ∀ now, ParallelTimed t t' ends (f now) (f' now)) :
    ParallelTimed t t' ends (Timed.now >>= f) (Timed.now >>= f') := by
  apply now.bind
  rintro now _ rfl
  exact hf now

theorem pause_bind
    {ends : α → α → Prop} {f f' : Unit → Timed bench α} (d : Duration)
    (hf : ParallelTimed t t' ends (f ()) (f' ())) :
    ParallelTimed t t' ends (Timed.pause d >>= f) (Timed.pause d >>= f') :=
  (pause d).bind fun _ _ _ => hf

theorem ask {ends : α → α → Prop} {d d' : Dialogue bench α} (hd : Parallel t t' ends d d') :
    ParallelTimed t t' ends (Timed.ask d) (Timed.ask d') := by
  intro start
  rw [Timed.startingAt_ask, Timed.startingAt_ask]
  exact hd.bind fun a a' hends => .done ⟨.some hends, rfl⟩

end ParallelTimed

namespace ParallelStep

theorem pure {ends : α → α → Prop} {a a' : α} (hends : ends a a') :
    ParallelStep t t' ends (pure a) (pure a') :=
  ParallelTimed.pure (.ok hends)

theorem skip {ends : α → α → Prop} (reason : String) :
    ParallelStep t t' ends (Step.skip reason) (Step.skip reason) :=
  ParallelTimed.pure (.error (.skip reason))

theorem bind
    {middle : α → α → Prop} {ends : β → β → Prop} {p p' : Step α} {f f' : α → Step β}
    (hp : ParallelStep t t' middle p p')
    (hf : ∀ a a', middle a a' → ParallelStep t t' ends (f a) (f' a')) :
    ParallelStep t t' ends (p >>= f) (p' >>= f') := by
  unfold ParallelStep
  rw [Step.run_bind_eq, Step.run_bind_eq]
  apply ParallelTimed.bind hp
  intro result result' hresult
  cases hresult with
  | ok hmiddle => exact hf _ _ hmiddle
  | error hexit => exact ParallelTimed.pure (.error hexit)

theorem ofOutcome
    {ends : α → α → Prop} {outcome outcome' : Outcome α}
    (houtcome : Paired (RetoldFailure t t') ends outcome outcome') :
    ParallelStep t t' ends (Step.ofOutcome outcome) (Step.ofOutcome outcome') := by
  cases houtcome with
  | ok hends => exact pure hends
  | error hfailure => exact ParallelTimed.pure (.error (.fail hfailure))

/-- What was found before anything was asked. -/
theorem ofOutcome_same (outcome : Outcome α) :
    ParallelStep t t' Eq (Step.ofOutcome outcome) (Step.ofOutcome outcome) := by
  cases outcome with
  | ok a => exact ofOutcome (.ok rfl)
  | error failure => exact ofOutcome (.error (.same _))

theorem ofSelection (outcome : Outcome (Selection α)) :
    ParallelStep t t' Eq (Step.ofSelection outcome) (Step.ofSelection outcome) := by
  unfold Step.ofSelection
  apply (ofOutcome_same outcome).bind
  rintro selection _ rfl
  cases selection with
  | selected choice => exact pure rfl
  | skip reason => exact skip reason

theorem timed
    {ends : α → α → Prop} {p p' : Timed bench (Outcome α)}
    (hp : ParallelTimed t t' (Paired (RetoldFailure t t') ends) p p') :
    ParallelStep t t' ends (Step.timed p) (Step.timed p') := by
  unfold ParallelStep
  rw [Step.run_timed_eq, Step.run_timed_eq]
  apply ParallelTimed.bind hp
  intro outcome outcome' houtcome
  cases houtcome with
  | ok hends => exact ParallelTimed.pure (.ok hends)
  | error hfailure => exact ParallelTimed.pure (.error (.fail hfailure))

theorem asked
    {ends : α → α → Prop} {d d' : Dialogue bench (Outcome α)}
    (hd : Parallel t t' (Paired (RetoldFailure t t') ends) d d') :
    ParallelStep t t' ends (Step.asked d) (Step.asked d') :=
  timed (ParallelTimed.ask hd)

theorem pause (d : Duration) : ParallelStep t t' Eq (Step.pause d) (Step.pause d) := by
  unfold ParallelStep
  rw [Step.pause, ExceptT.run_lift, map_eq_pure_bind]
  exact ParallelTimed.pause_bind d (ParallelTimed.pure (.ok rfl))

end ParallelStep

/-! ## Readings -/

namespace Parallel

theorem readStates (type : ComponentType) (names : List String) :
    Parallel t t' (Paired (RetoldFailure t t') Eq) (Inventory.readStates type names)
      (Inventory.readStates type names) := by
  induction names with
  | nil => exact .done (.ok rfl)
  | cons name rest ih =>
      rw [Inventory.readStates]
      apply (question (.componentState name) fun _ _ => Alike.paired).bind
      rintro _ _ (⟨rfl⟩ | herror)
      · apply ih.bind
        rintro _ _ (⟨rfl⟩ | hfailure)
        · exact .done (.ok rfl)
        · exact .done (.error hfailure)
      · exact .done (.error (herror.during _))

theorem fetch (type : ComponentType) :
    Parallel t t' (Paired (RetoldFailure t t') Eq) (Inventory.fetch type)
      (Inventory.fetch type) := by
  unfold Inventory.fetch
  apply (question (.componentNames type) fun _ _ => Alike.paired).bind
  rintro _ _ (⟨rfl⟩ | herror)
  · exact readStates type _
  · exact .done (.error (herror.during _))

theorem readAll (names : List String) (snapshot : Snapshot) :
    Parallel t t' (Paired (RetoldError t t') Eq) (Snapshot.readAll names snapshot)
      (Snapshot.readAll names snapshot) := by
  induction names generalizing snapshot with
  | nil => exact .done (.ok rfl)
  | cons name rest ih =>
      rw [Snapshot.readAll]
      apply (question (.interfaceStatus name) fun _ _ => Alike.paired).bind
      rintro _ _ (⟨rfl⟩ | herror)
      · exact ih _
      · exact .done (.error herror)

theorem capture (scope : InterfaceScope) :
    Parallel t t' (Paired (RetoldError t t') Eq) (Snapshot.capture scope)
      (Snapshot.capture scope) := by
  cases scope with
  | only names => exact readAll names _
  | all =>
      unfold Snapshot.capture
      apply (question .interfaceNames fun _ _ => Alike.paired).bind
      rintro _ _ (⟨rfl⟩ | herror)
      · exact readAll _ _
      · exact .done (.error herror)

theorem captureBefore (scope : InterfaceScope) :
    Parallel t t' (Paired (RetoldFailure t t') Eq) (CardReboot.captureBefore scope)
      (CardReboot.captureBefore scope) := by
  unfold CardReboot.captureBefore
  apply (capture scope).bind
  rintro _ _ (⟨rfl⟩ | herror)
  · exact .done (.ok rfl)
  · exact .done (.error (herror.during _))

theorem observe (pre : Snapshot) (scope : InterfaceScope) :
    Parallel t t' (Paired (Retold t t') Eq) (Recovery.observe pre scope)
      (Recovery.observe pre scope) := by
  unfold Recovery.observe
  apply (capture scope).bind
  rintro _ _ (⟨rfl⟩ | herror)
  · exact .done (.ok rfl)
  · exact .done (.error herror.message)

theorem issueReboot (target : RebootTarget) :
    Parallel t t' (Paired (RetoldFailure t t') Eq) (Campaign.issueReboot target)
      (Campaign.issueReboot target) := by
  unfold Campaign.issueReboot
  apply (question (.reboot target) fun _ _ => Alike.paired).bind
  rintro _ _ (⟨rfl⟩ | herror)
  · exact .done (.ok rfl)
  · exact .done (.error (herror.rebootFailure _))

end Parallel

/-! ## Waits and polls -/

theorem Retold.observed
    (shown : α → String) {found found' : Except String α}
    (hfound : Paired (Retold t t') Eq found found') :
    Retold t t' (Wait.observed shown found) (Wait.observed shown found') := by
  rcases hfound with ⟨rfl⟩ | htext
  · exact .same _
  · exact (Retold.same "error: ").append htext

theorem RetoldFailure.timeout
    (what : String) (limit elapsed : Duration) {observed observed' : String}
    (hobserved : Retold t t' observed observed') :
    RetoldFailure t t' (.timeout what limit elapsed observed)
      (.timeout what limit elapsed observed') := by
  rw [RetoldFailure, Failure.message_timeout, Failure.message_timeout]
  exact (Retold.same _).append hobserved

theorem ParallelTimed.keepReading
    (w : Wait) {read : Dialogue bench (Except String α)}
    (hread : Parallel t t' (Paired (Retold t t') Eq) read read) (accept : α → Bool)
    (shown : α → String) (start : Instant) (deadline : Option Instant) (rounds : Nat) :
    ParallelTimed t t' (Paired (RetoldFailure t t') Eq)
      (w.keepReading read accept shown start deadline rounds)
      (w.keepReading read accept shown start deadline rounds) := by
  induction rounds with
  | zero => exact abandoned
  | succ rounds ih =>
      rw [Wait.keepReading]
      apply (ask hread).bind
      intro found found' hfound
      have hobserved := Retold.observed shown hfound
      -- Only a value can be acceptable, and then it is the same one.
      have haccepted : found'.toOption.filter accept = found.toOption.filter accept := by
        rcases hfound with ⟨rfl⟩ | htext <;> rfl
      rw [haccepted]
      cases found.toOption.filter accept with
      | some value => exact pure (.ok rfl)
      | none =>
          apply now_bind
          intro now
          cases w.pause? deadline now with
          | none => exact pure (.error (.timeout _ _ _ hobserved))
          | some d => exact pause_bind d ih

theorem ParallelTimed.await
    (w : Wait) (patience : Nat) {read : Dialogue bench (Except String α)}
    (hread : Parallel t t' (Paired (Retold t t') Eq) read read) (accept : α → Bool)
    (shown : α → String) :
    ParallelTimed t t' (Paired (RetoldFailure t t') Eq)
      (w.await patience read accept shown) (w.await patience read accept shown) := by
  unfold Wait.await
  apply now_bind
  intro start
  exact keepReading w hread accept shown start _ _

/-- The same progress but for the words of the last error. -/
inductive RetoldProgress (t t' : Target) : StatusPoll.Progress → StatusPoll.Progress → Prop
  | intro (queries : Nat) (lastStatus : Option RebootStatus) {lastError lastError' : Option String}
      (herror : Option.Rel (Retold t t') lastError lastError') :
      RetoldProgress t t' ⟨queries, lastStatus, lastError⟩ ⟨queries, lastStatus, lastError'⟩

namespace RetoldProgress

variable {progress progress' : StatusPoll.Progress}

theorem record
    (hprogress : RetoldProgress t t' progress progress') {answer answer' : Answered RebootStatus}
    (hanswer : Paired (RetoldError t t') Eq answer answer') :
    RetoldProgress t t' (progress.record answer) (progress'.record answer') := by
  obtain ⟨queries, lastStatus, -⟩ := hprogress
  rcases hanswer with ⟨rfl⟩ | herror
  · exact .intro _ _ .none
  · exact .intro _ _ (.some herror.message)

theorem lastObserved
    (hprogress : RetoldProgress t t' progress progress') (state : PollState)
    (elapsed : Duration) :
    Retold t t' (progress.report state elapsed).lastObserved
      (progress'.report state elapsed).lastObserved := by
  obtain ⟨queries, lastStatus, htext | -⟩ := hprogress
  · exact (Retold.same "error: ").append htext
  · exact .same _

theorem result
    (hprogress : RetoldProgress t t' progress progress') (state : PollState) (elapsed : Duration)
    (component : String) (limit : Duration) :
    Paired (RetoldFailure t t') (fun _ _ => True)
      ((progress.report state elapsed).result component limit)
      ((progress'.report state elapsed).result component limit) := by
  have hobserved := hprogress.lastObserved state elapsed
  cases state with
  | completed => exact .ok trivial
  | unsupported => exact .error (.same _)
  | timedOut => exact .error (.timeout _ _ _ hobserved)
  | polling => exact .error (.timeout _ _ _ hobserved)

end RetoldProgress

theorem next_eq_of_paired
    {answer answer' : Answered RebootStatus}
    (hanswer : Paired (RetoldError t t') Eq answer answer') :
    PollState.polling.next answer' = PollState.polling.next answer := by
  rcases hanswer with ⟨rfl⟩ | herror
  · rfl
  · simp only [PollState.next, herror.isUnimplemented_eq]

/-- Polls with the same result, but for the words of the failure. -/
def RetoldPoll (t t' : Target) (report report' : PollReport) : Prop :=
  ∀ component limit, Paired (RetoldFailure t t') (fun _ _ => True)
    (report.result component limit) (report'.result component limit)

theorem ParallelTimed.keepAsking
    (request : StatusRequest) (deadline : Option Instant) (start : Instant) (rounds : Nat)
    {progress progress' : StatusPoll.Progress}
    (hprogress : RetoldProgress t t' progress progress') :
    ParallelTimed t t' (RetoldPoll t t')
      (StatusPoll.keepAsking request deadline start rounds progress)
      (StatusPoll.keepAsking request deadline start rounds progress') := by
  induction rounds generalizing progress progress' with
  | zero => exact abandoned
  | succ rounds ih =>
      rw [StatusPoll.keepAsking, StatusPoll.keepAsking]
      apply pause_bind
      apply now_bind
      intro now
      by_cases hdue : StatusPoll.isDue deadline now = true
      · rw [if_pos hdue, if_pos hdue]
        exact pure fun component limit => hprogress.result _ _ component limit
      · rw [if_neg hdue, if_neg hdue]
        apply (ask (.question (.rebootStatus request) fun _ _ => Alike.paired)).bind
        intro answer answer' hanswer
        have hrecord := hprogress.record hanswer
        simp only [next_eq_of_paired hanswer]
        by_cases hterminal : (PollState.polling.next answer).isTerminal = true
        · rw [if_pos hterminal, if_pos hterminal]
          exact pure fun component limit => hrecord.result _ _ component limit
        · rw [if_neg hterminal, if_neg hterminal]
          exact ih hrecord

theorem ParallelTimed.poll (patience : Nat) (limit : Duration) (request : StatusRequest) :
    ParallelTimed t t' (RetoldPoll t t') (StatusPoll.poll patience limit request)
      (StatusPoll.poll patience limit request) := by
  unfold StatusPoll.poll StatusPoll.pollFrom
  apply now_bind
  intro issued
  apply now_bind
  intro start
  exact keepAsking _ _ _ _ (.intro _ _ .none)

theorem ParallelTimed.awaitRecovery
    (patience : Nat) (interval limit : Duration) (pre : Snapshot) (scope : InterfaceScope) :
    ParallelTimed t t' (Paired (RetoldFailure t t') Eq)
      (Recovery.await patience interval limit pre scope)
      (Recovery.await patience interval limit pre scope) := by
  unfold Recovery.await
  by_cases hempty : pre.isEmpty = true
  · rw [if_pos hempty]
    exact pure (.ok rfl)
  · rw [if_neg hempty]
    apply (await _ patience (.observe pre scope) _ _).bind
    rintro _ _ (⟨rfl⟩ | hfailure)
    · exact pure (.ok rfl)
    · exact pure (.error hfailure)

/-! ## The watch for dropped packets -/

theorem RetoldFailure.forall₂_same (failures : List Failure) :
    List.Forall₂ (RetoldFailure t t') failures failures :=
  List.forall₂_same.mpr fun _ _ => .same _

/-- Reports on a window that differ in the words of the errors after the sampling. -/
inductive RetoldWindow (t t' : Target) : DropReport → DropReport → Prop
  | intro (report : DropReport) {errors errors' : List Failure}
      (herrors : List.Forall₂ (RetoldFailure t t') errors errors') :
      RetoldWindow t t' { report with errors := errors } { report with errors := errors' }

namespace RetoldWindow

variable {report report' : DropReport}

theorem failures (hreport : RetoldWindow t t' report report') :
    List.Forall₂ (RetoldFailure t t') report.failures report'.failures := by
  obtain ⟨report, herrors⟩ := hreport
  have hsame : ∀ failures, List.Forall₂ (RetoldFailure t t') failures failures :=
    RetoldFailure.forall₂_same
  exact List.rel_append (List.rel_append (hsame _) herrors) (hsame _)

theorem result (hreport : RetoldWindow t t' report report') :
    Paired (RetoldFailure t t') Eq report.result report'.result := by
  have hfailure := RetoldFailure.ofList? hreport.failures
  unfold DropReport.result
  generalize Failure.ofList? report.failures = found at hfailure ⊢
  generalize Failure.ofList? report'.failures = found' at hfailure ⊢
  cases hfailure with
  | some hretold => exact .error hretold
  | none => exact .ok rfl

theorem closingErrors
    (ingress : String) (stopped : Answered Unit) {counted counted' : Answered Nat}
    (hcounted : Paired (RetoldError t t') Eq counted counted') :
    List.Forall₂ (RetoldFailure t t') (DropWindow.closingErrors ingress stopped counted)
      (DropWindow.closingErrors ingress stopped counted') := by
  rcases hcounted with ⟨rfl⟩ | herror
  · exact RetoldFailure.forall₂_same _
  · exact List.rel_append (RetoldFailure.forall₂_same _) (.cons (herror.during _) .nil)

theorem closed
    (ingress : String) (report : DropReport) (stopped : Answered Unit)
    {counted counted' : Answered Nat} (hcounted : Paired (RetoldError t t') Eq counted counted') :
    RetoldWindow t t' (DropWindow.closed ingress report stopped counted)
      (DropWindow.closed ingress report stopped counted') := by
  have herrors := List.rel_append (RetoldFailure.forall₂_same report.errors)
    (closingErrors ingress stopped hcounted)
  have hafter : counted'.toOption = counted.toOption := by
    rcases hcounted with ⟨rfl⟩ | herror <;> rfl
  unfold DropWindow.closed
  rw [hafter]
  exact .intro { report with packetsAfter := counted.toOption.or report.packetsAfter } herrors

end RetoldWindow

theorem Parallel.close (ingress : String) (report : DropReport) :
    Parallel t t' (RetoldWindow t t') (DropWindow.close ingress report)
      (DropWindow.close ingress report) := by
  rw [DropWindow.close_eq]
  apply (question .stopTraffic fun _ _ => id).bind
  rintro stopped _ rfl
  apply (question (.ingressPackets ingress) fun _ _ => Alike.paired).bind
  intro counted counted' hcounted
  exact .done (.closed ingress report stopped hcounted)

theorem Parallel.sample (command : String) :
    Parallel t t' Eq (DropWindow.sample command) (DropWindow.sample command) := by
  unfold DropWindow.sample
  apply (question (.console command) fun _ _ => id).bind
  rintro answer _ rfl
  rcases answer with e | output
  · exact .done rfl
  · by_cases hfailed : output.isError = true
    · simp only [if_pos hfailed]
      exact .done rfl
    · simp only [if_neg hfailed]
      exact .done rfl

namespace ParallelTimed

theorem takeSamples
    (interval : Duration) (command : String) (count taken : Nat) (report : DropReport) :
    ParallelTimed t t' Eq (DropWindow.takeSamples interval command count taken report)
      (DropWindow.takeSamples interval command count taken report) := by
  induction count generalizing taken report with
  | zero => exact pure rfl
  | succ count ih =>
      rw [DropWindow.takeSamples]
      apply pause_bind
      apply (ask (.sample command)).bind
      rintro found _ rfl
      rcases found with failure | records
      · exact pure rfl
      · exact ih _ _

theorem watch (interval : Duration) (count : Nat) (linecard ingress : String) :
    ParallelTimed t t' (Paired (RetoldFailure t t') (RetoldWindow t t'))
      (DropWindow.watch interval count linecard ingress)
      (DropWindow.watch interval count linecard ingress) := by
  unfold DropWindow.watch
  apply (ask (.question (.ingressPackets ingress) fun _ _ => Alike.paired)).bind
  rintro _ _ (⟨rfl⟩ | herror)
  · apply (ask (.question .startTraffic fun _ _ => id)).bind
    rintro started _ rfl
    rcases started with e | ⟨⟨⟩⟩
    · exact pure (.error (.same _))
    · apply (takeSamples _ _ _ _ _).bind
      rintro sampled _ rfl
      apply (ask (.close ingress sampled)).bind
      intro report report' hreport
      exact pure (.ok hreport)
  · exact pure (.error (herror.during _))

end ParallelTimed

/-! ## Cases -/

/-- The same verdict, but for the words of the failure. -/
inductive RetoldVerdict (t t' : Target) : Verdict → Verdict → Prop
  | same (verdict : Verdict) : RetoldVerdict t t' verdict verdict
  | failed {failure failure' : Failure} (hfailure : RetoldFailure t t' failure failure') :
      RetoldVerdict t t' (.failed failure) (.failed failure')

/-- The same case in the same time with the same verdict, but for the words of the
failure. -/
structure RetoldReport (t t' : Target) (report report' : CaseReport) : Prop where
  case : report'.case = report.case
  elapsed : report'.elapsed = report.elapsed
  verdict : RetoldVerdict t t' report.verdict report'.verdict

theorem RetoldReport.line
    {report report' : CaseReport} (hreport : RetoldReport t t' report report') :
    Retold t t' report.line report'.line := by
  obtain ⟨case, verdict, elapsed⟩ := report
  obtain ⟨_, verdict', _⟩ := report'
  obtain ⟨rfl, rfl, hverdict⟩ := hreport
  cases hverdict with
  | same verdict => exact .same _
  | failed hfailure => exact (Retold.same _).append hfailure

end Parallel

end Tool

namespace Campaign

open Tool

variable (c : Campaign) {t t' : Target}

theorem parallel_awaitReboot (target : RebootTarget) (limit : Duration) :
    ParallelTimed t t' (Paired (RetoldFailure t t') fun _ _ => True)
      (c.awaitReboot target limit) (c.awaitReboot target limit) := by
  unfold awaitReboot
  apply (ParallelTimed.poll _ _ _).bind
  intro report report' hreport
  exact .pure (hreport target.component limit)

theorem parallel_awaitState
    (what component : String) (limit : Duration) (accept : ComponentState → Bool) :
    ParallelTimed t t' (Paired (RetoldFailure t t') Eq)
      (c.awaitState what component limit accept)
      (c.awaitState what component limit accept) := by
  have hread : Parallel t t' (Paired (Retold t t') Eq)
      (Bench.componentState component >>= fun answer =>
        pure (answer.mapError DeviceError.message))
      (Bench.componentState component >>= fun answer =>
        pure (answer.mapError DeviceError.message)) := by
    apply (Parallel.question (.componentState component) fun _ _ => Alike.paired).bind
    rintro _ _ (⟨rfl⟩ | herror)
    · exact .done (.ok rfl)
    · exact .done (.error herror.message)
  exact ParallelTimed.await _ _ hread _ _

theorem parallel_checkDrops (card : String) :
    ParallelStep t t' Eq (c.checkDrops card) (c.checkDrops card) := by
  unfold checkDrops
  apply (ParallelStep.ofOutcome_same _).bind
  rintro ingress _ rfl
  apply (ParallelStep.timed (.watch _ _ card ingress)).bind
  intro report report' hreport
  exact .ofOutcome hreport.result

theorem parallel_prepare (case : RebootCase) :
    ParallelStep t t' Eq (c.prepare case) (c.prepare case) := by
  cases case with
  | standbyController =>
      rw [prepare]
      apply (ParallelStep.asked (.fetch .controllerCard)).bind
      rintro inventory _ rfl
      apply (ParallelStep.ofSelection _).bind
      rintro pair _ rfl
      exact .pure rfl
  | linecard =>
      rw [prepare]
      apply (ParallelStep.asked (.fetch .linecard)).bind
      rintro inventory _ rfl
      apply (ParallelStep.ofOutcome_same _).bind
      rintro pinned _ rfl
      apply (ParallelStep.ofSelection _).bind
      rintro card _ rfl
      apply (ParallelStep.asked (.captureBefore _)).bind
      rintro pre _ rfl
      exact .pure rfl
  | fabric =>
      rw [prepare]
      split
      · exact .skip _
      · apply (ParallelStep.asked (.fetch .fabric)).bind
        rintro inventory _ rfl
        apply (ParallelStep.ofSelection _).bind
        rintro card _ rfl
        apply (ParallelStep.asked (.captureBefore _)).bind
        rintro pre _ rfl
        exact .pure rfl

theorem parallel_finish (card : String) :
    ParallelStep t t' Eq (c.finish card) (c.finish card) := by
  unfold finish
  split
  · split
    · exact c.parallel_checkDrops card
    · exact .skip _
  · exact .pure rfl

theorem parallel_recover (card : String) (pre : Snapshot) (case : RebootCase) :
    ParallelStep t t' Eq (c.recover card pre case) (c.recover card pre case) := by
  have hreboot : ∀ target limit, ParallelStep t t' (fun _ _ => True)
      (Step.timed (c.awaitReboot target limit)) (Step.timed (c.awaitReboot target limit)) :=
    fun target limit => ParallelStep.timed (c.parallel_awaitReboot target limit)
  have hstate : ∀ what limit accept, ParallelStep t t' Eq
      (Step.timed (c.awaitState what card limit accept))
      (Step.timed (c.awaitState what card limit accept)) :=
    fun what limit accept => ParallelStep.timed (c.parallel_awaitState what card limit accept)
  have hinterfaces : ∀ limit, ParallelStep t t' Eq
      (Step.timed (c.awaitInterfaces limit pre)) (Step.timed (c.awaitInterfaces limit pre)) :=
    fun limit => ParallelStep.timed (.awaitRecovery _ _ limit pre c.scope)
  cases case with
  | standbyController =>
      rw [recover]
      apply (ParallelStep.pause _).bind
      intro _ _ _
      apply (hstate _ _ _).bind
      intro _ _ _
      exact .pure rfl
  | linecard =>
      rw [recover]
      apply (ParallelStep.pause _).bind
      intro _ _ _
      apply (hreboot _ _).bind
      intro _ _ _
      apply (hstate _ _ _).bind
      intro _ _ _
      apply (hinterfaces _).bind
      intro _ _ _
      exact c.parallel_finish card
  | fabric =>
      rw [recover]
      apply (hreboot _ _).bind
      intro _ _ _
      apply (hstate _ _ _).bind
      intro _ _ _
      apply (hinterfaces _).bind
      intro _ _ _
      exact .pure rfl

theorem parallel_steps (case : RebootCase) :
    ParallelStep t t' Eq (c.steps case) (c.steps case) := by
  rw [steps_eq]
  apply (c.parallel_prepare case).bind
  rintro found _ rfl
  apply (ParallelStep.asked (.issueReboot _)).bind
  intro _ _ _
  exact c.parallel_recover _ _ case

theorem parallel_runCase (case : RebootCase) :
    ParallelTimed t t' (RetoldReport t t') (c.runCase case) (c.runCase case) := by
  unfold runCase
  apply ParallelTimed.now_bind
  intro start
  apply ParallelTimed.bind (c.parallel_steps case)
  intro result result' hresult
  apply ParallelTimed.now_bind
  intro stop
  apply ParallelTimed.pure
  rcases hresult with ⟨rfl⟩ | ⟨reason | hfailure⟩
  · exact ⟨rfl, rfl, .same _⟩
  · exact ⟨rfl, rfl, .same _⟩
  · exact ⟨rfl, rfl, .failed hfailure⟩

theorem parallel_runCases (cases : List RebootCase) :
    ParallelTimed t t' (List.Forall₂ (RetoldReport t t')) (c.runCases cases)
      (c.runCases cases) := by
  induction cases with
  | nil => exact .pure .nil
  | cons case rest ih =>
      rw [runCases]
      apply (c.parallel_runCase case).bind
      intro report report' hreport
      apply ih.bind
      intro reports reports' hreports
      exact .pure (.cons hreport hreports)

end Campaign

end CardReboot
