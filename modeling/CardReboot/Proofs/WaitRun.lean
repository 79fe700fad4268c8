import CardReboot.Proofs.DropWindowVerdict
import CardReboot.Proofs.ObservationOrder
import CardReboot.Proofs.ReadingRun

/-!
# What the waits of a case have seen

Every wait after a reboot goes on until it sees what it waits for or gives up.
When it succeeds, the last thing in its transcript is what it waited for.  However
it ends, it asks about no other reboot than the one it waits for, and a failure of
it is none of those that are found before a reboot.
-/

namespace CardReboot

/-- The failures that tell, before anything is rebooted, that a case cannot run. -/
def Failure.IsPreflight : Failure → Prop
  | .topologyMismatch _ _ _ => True
  | .noRemovableComponent _ => True
  | .redundancyRoleNotFound _ => True
  | .redundancyRoleAmbiguous _ _ => True
  | .invalidPortName _ => True
  | .invalidConfiguration _ _ => True
  | _ => False

/-- The ways to leave a case that are left after its reboot. -/
def Exit.IsLate : Exit → Prop
  | .skip reason => reason = "traffic-drop check needs a traffic generator"
  | .fail failure => ¬ failure.IsPreflight

/-- Requests of a case after its reboot: none for another reboot, and none about a
reboot but this one. -/
def BenchRequest.IsFollowUp (request : StatusRequest) : BenchRequest → Prop
  | .reboot _ => False
  | .rebootStatus other => other = request
  | _ => True

theorem BenchRequest.IsQuiet.isFollowUp
    {question : BenchRequest} (hquiet : question.IsQuiet) (request : StatusRequest) :
    question.IsFollowUp request := by
  cases question with
  | reboot target => exact hquiet
  | rebootStatus other => exact hquiet.elim
  | _ => exact trivial

abbrev Step.SettlesLate {α : Type} : Outcome α → Prop :=
  Step.Settles Exit.IsLate fun _ => True

abbrev Timed.IsFollowUp {α : Type} (request : StatusRequest) (t : Timed bench (Outcome α)) :
    Prop :=
  t.Guarantees (BenchRequest.IsFollowUp request) Step.SettlesLate

theorem Dialogue.Guarantees.isFollowUp
    {α : Type} {d : Dialogue bench α} {ends : α → Prop}
    (hd : d.Guarantees (I := bench) BenchRequest.IsQuiet ends) (request : StatusRequest) :
    d.Guarantees (I := bench) (BenchRequest.IsFollowUp request) ends := by
  intro transcript a hrun
  obtain ⟨hasks, ha⟩ := hd transcript a hrun
  exact ⟨hasks.mono fun question hquiet => hquiet.isFollowUp request, ha⟩

theorem Timed.Guarantees.isFollowUp
    {α : Type} {t : Timed bench α} {ends : α → Prop}
    (ht : t.Guarantees BenchRequest.IsQuiet ends) (request : StatusRequest) :
    t.Guarantees (BenchRequest.IsFollowUp request) ends := by
  intro start transcript result stop hrun
  obtain ⟨hasks, hends⟩ := ht start transcript result stop hrun
  exact ⟨hasks.mono fun question hquiet => hquiet.isFollowUp request, hends⟩

namespace Wait

variable {α : Type} {read : Dialogue bench (Except String α)} {accept : α → Bool}

/-- The last read of a wait that succeeds has found an acceptable value. -/
theorem exists_of_runs_keepReading
    {w : Wait} {shown : α → String} {issued start stop : Instant}
    {deadline : Option Instant} {rounds : Nat} {transcript : Transcript bench} {value : α}
    (hrun : (w.keepReading read accept shown issued deadline rounds).Runs start transcript
      (some (.ok value)) stop) :
    ∃ before last, transcript = before ++ last ∧ read.Produces last (.ok value) ∧
      accept value = true := by
  induction rounds generalizing start transcript with
  | zero =>
      obtain ⟨-, hend, -⟩ := Timed.runs_abandoned_iff.mp hrun
      cases hend
  | succ rounds ih =>
      obtain ⟨first, rest, found, rfl, hread, hrest⟩ := Timed.runs_ask_bind_iff.mp hrun
      cases hfound : found.toOption.filter accept with
      | some accepted =>
          simp only [hfound] at hrest
          obtain ⟨rfl, hend, -⟩ := Timed.runs_pure_iff.mp hrest
          cases hend
          obtain ⟨hvalue, haccept⟩ := Option.filter_eq_some_iff.mp hfound
          cases found with
          | error e => cases hvalue
          | ok found =>
              cases hvalue
              exact ⟨[], first, by simp, hread, haccept⟩
      | none =>
          simp only [hfound] at hrest
          have hnow := Timed.runs_now_bind_iff.mp hrest
          cases hpause : w.pause? deadline start with
          | none =>
              simp only [hpause] at hnow
              obtain ⟨-, hend, -⟩ := Timed.runs_pure_iff.mp hnow
              cases hend
          | some pause =>
              simp only [hpause] at hnow
              obtain ⟨later, rfl, hlater⟩ := Timed.runs_pause_bind_iff.mp hnow
              obtain ⟨before, last, rfl, hlast⟩ := ih hlater
              exact ⟨first ++ ⟨.pause pause, ()⟩ :: before, last, by simp, hlast⟩

theorem exists_of_runs_await
    {w : Wait} {shown : α → String} {patience : Nat} {start stop : Instant}
    {transcript : Transcript bench} {value : α}
    (hrun : (w.await patience read accept shown).Runs start transcript
      (some (.ok value)) stop) :
    ∃ before last, transcript = before ++ last ∧ read.Produces last (.ok value) ∧
      accept value = true := by
  unfold await at hrun
  have hnow := Timed.runs_now_bind_iff.mp hrun
  exact exists_of_runs_keepReading hnow

variable {request : StatusRequest}

theorem isFollowUp_keepReading
    (hread : read.Guarantees (I := bench) BenchRequest.IsQuiet fun _ => True)
    (w : Wait) (accept : α → Bool) (shown : α → String) (issued : Instant)
    (deadline : Option Instant) (rounds : Nat) :
    (w.keepReading read accept shown issued deadline rounds).IsFollowUp request := by
  induction rounds with
  | zero => exact Timed.guarantees_abandoned
  | succ rounds ih =>
      refine Timed.guarantees_bind (Timed.guarantees_ask (hread.isFollowUp request)) ?_
      intro found _
      cases found.toOption.filter accept with
      | some accepted => exact Timed.guarantees_pure trivial
      | none =>
          refine Timed.guarantees_bind Timed.guarantees_now ?_
          intro now _
          cases w.pause? deadline now with
          | none => exact Timed.guarantees_pure id
          | some pause =>
              exact Timed.guarantees_bind (Timed.guarantees_pause trivial) fun _ _ => ih

theorem isFollowUp_await
    (hread : read.Guarantees (I := bench) BenchRequest.IsQuiet fun _ => True)
    (w : Wait) (patience : Nat) (accept : α → Bool) (shown : α → String) :
    (w.await patience read accept shown).IsFollowUp request := by
  refine Timed.guarantees_bind Timed.guarantees_now ?_
  intro start _
  exact isFollowUp_keepReading hread w accept shown start _ _

end Wait

namespace StatusPoll

variable {request : StatusRequest}

theorem exists_of_next_eq_completed
    {answer : Answered RebootStatus} (hnext : PollState.polling.next answer = .completed) :
    ∃ status, answer = .ok status ∧ status.active = false := by
  cases answer with
  | error e =>
      cases hunimplemented : e.isUnimplemented <;>
        simp [PollState.next, hunimplemented] at hnext
  | ok status =>
      have hinactive : status.active = false := by simpa [PollState.next] using hnext
      exact ⟨status, rfl, hinactive⟩

/-- A poll that ends completed has just been told that the reboot is over. -/
theorem exists_of_runs_keepAsking
    {deadline : Option Instant} {issued start stop : Instant} {rounds : Nat}
    {progress : Progress} {transcript : Transcript bench} {report : PollReport}
    (hrun : (keepAsking request deadline issued rounds progress).Runs start transcript
      (some report) stop)
    (hcompleted : report.state = .completed) :
    ∃ before status, transcript = before ++ [⟨.rebootStatus request, .ok status⟩] ∧
      status.active = false := by
  induction rounds generalizing start transcript progress with
  | zero =>
      obtain ⟨-, hend, -⟩ := Timed.runs_abandoned_iff.mp hrun
      cases hend
  | succ rounds ih =>
      unfold keepAsking at hrun
      obtain ⟨afterPause, rfl, hpause⟩ := Timed.runs_pause_bind_iff.mp hrun
      have hround := Timed.runs_now_bind_iff.mp hpause
      by_cases hdue : isDue deadline (start.after interval) = true
      · rw [if_pos hdue] at hround
        obtain ⟨-, hend, -⟩ := Timed.runs_pure_iff.mp hround
        cases hend
        cases hcompleted
      · rw [if_neg hdue] at hround
        obtain ⟨asked, rest, answer, rfl, hasked, hrest⟩ :=
          Timed.runs_ask_bind_iff.mp hround
        obtain rfl := Dialogue.produces_question_iff.mp hasked
        by_cases hterminal : (PollState.polling.next answer).isTerminal = true
        · simp only [if_pos hterminal] at hrest
          obtain ⟨rfl, hend, -⟩ := Timed.runs_pure_iff.mp hrest
          cases hend
          obtain ⟨status, rfl, hinactive⟩ := exists_of_next_eq_completed hcompleted
          exact ⟨[⟨.pause interval, ()⟩], status, rfl, hinactive⟩
        · simp only [if_neg hterminal] at hrest
          obtain ⟨before, status, rfl, hinactive⟩ := ih hrest
          exact ⟨⟨.pause interval, ()⟩ :: ⟨.rebootStatus request, answer⟩ :: before, status,
            rfl, hinactive⟩

theorem exists_of_runs_poll
    {patience : Nat} {limit : Duration} {start stop : Instant}
    {transcript : Transcript bench} {report : PollReport}
    (hrun : (poll patience limit request).Runs start transcript (some report) stop)
    (hcompleted : report.state = .completed) :
    ∃ before status, transcript = before ++ [⟨.rebootStatus request, .ok status⟩] ∧
      status.active = false := by
  unfold poll at hrun
  have hpoll := Timed.runs_now_bind_iff.mp hrun
  unfold pollFrom at hpoll
  have hloop := Timed.runs_now_bind_iff.mp hpoll
  exact exists_of_runs_keepAsking hloop hcompleted

theorem guarantees_keepAsking
    (deadline : Option Instant) (issued : Instant) (rounds : Nat) (progress : Progress) :
    (keepAsking request deadline issued rounds progress).Guarantees
      (BenchRequest.IsFollowUp request) fun _ => True := by
  induction rounds generalizing progress with
  | zero => exact Timed.guarantees_abandoned
  | succ rounds ih =>
      refine Timed.guarantees_bind (Timed.guarantees_pause trivial) fun _ _ => ?_
      refine Timed.guarantees_bind Timed.guarantees_now fun now _ => ?_
      by_cases hdue : isDue deadline now = true
      · rw [if_pos hdue]
        exact Timed.guarantees_pure trivial
      · rw [if_neg hdue]
        have hasks : BenchRequest.IsFollowUp request (.rebootStatus request) := rfl
        have hask := Timed.guarantees_ask (Dialogue.guarantees_question (I := bench) hasks)
        refine Timed.guarantees_bind hask fun answer _ => ?_
        by_cases hterminal : (PollState.polling.next answer).isTerminal = true
        · simp only [if_pos hterminal]
          exact Timed.guarantees_pure trivial
        · simp only [if_neg hterminal]
          exact ih _

theorem guarantees_poll (patience : Nat) (limit : Duration) :
    (poll patience limit request).Guarantees (BenchRequest.IsFollowUp request)
      fun _ => True := by
  unfold poll pollFrom
  refine Timed.guarantees_bind Timed.guarantees_now fun issued _ => ?_
  refine Timed.guarantees_bind Timed.guarantees_now fun start _ => ?_
  exact guarantees_keepAsking _ _ _ _

end StatusPoll

namespace PollReport

theorem state_eq_of_result_eq_ok
    {report found : PollReport} {component : String} {limit : Duration}
    (hresult : report.result component limit = .ok found) : report.state = .completed := by
  unfold result at hresult
  cases hstate : report.state <;> simp [hstate] at hresult ⊢

theorem settles_result (report : PollReport) (component : String) (limit : Duration) :
    Step.SettlesLate (report.result component limit) := by
  unfold result
  cases report.state with
  | completed => exact trivial
  | polling => exact id
  | timedOut => exact id
  | unsupported => exact id

end PollReport

namespace Recovery

theorem subset_of_missingFrom_isEmpty
    {pre post : Snapshot} (hempty : (pre.missingFrom post).isEmpty = true) :
    pre.up ⊆ post.up := by
  intro name hname
  have hall := List.filter_eq_nil_iff.mp (List.isEmpty_iff.mp hempty) name hname
  simpa using hall

/-- A recovery that has something to wait for ends with a pass that finds it. -/
theorem exists_of_runs_await
    {patience : Nat} {interval limit : Duration} {pre post : Snapshot}
    {scope : InterfaceScope} {start stop : Instant} {transcript : Transcript bench}
    (hrun : (await patience interval limit pre scope).Runs start transcript
      (some (.ok post)) stop)
    (hpre : pre.up ≠ []) :
    ∃ before last, transcript = before ++ last ∧ post.TakenIn scope last ∧
      pre.up ⊆ post.up := by
  unfold await at hrun
  rw [if_neg (by simpa [Snapshot.isEmpty] using hpre)] at hrun
  obtain ⟨waiting, rest, outcome, middle, rfl, hwait, hrest⟩ :=
    Timed.runs_bind_some_iff.mp hrun
  cases outcome with
  | error failure =>
      obtain ⟨-, hend, -⟩ := Timed.runs_pure_iff.mp hrest
      cases hend
  | ok observation =>
      obtain ⟨rfl, hend, -⟩ := Timed.runs_pure_iff.mp hrest
      cases hend
      obtain ⟨before, last, rfl, hread, hmissing⟩ := Wait.exists_of_runs_await hwait
      obtain ⟨htaken, hobserved⟩ := takenIn_of_observe_produces hread
      rw [hobserved] at hmissing
      exact ⟨before, last, List.append_nil _, htaken, subset_of_missingFrom_isEmpty hmissing⟩

theorem isFollowUp_await
    {request : StatusRequest} (patience : Nat) (interval limit : Duration) (pre : Snapshot)
    (scope : InterfaceScope) :
    (await patience interval limit pre scope).IsFollowUp request := by
  unfold await
  by_cases hempty : pre.isEmpty = true
  · rw [if_pos hempty]
    exact Timed.guarantees_pure trivial
  · rw [if_neg hempty]
    refine Timed.guarantees_bind
      (Wait.isFollowUp_await (guarantees_observe pre scope) _ _ _ _) ?_
    rintro (failure | observation) hsettles
    · exact Timed.guarantees_pure hsettles
    · exact Timed.guarantees_pure trivial

end Recovery

namespace Campaign

variable (c : Campaign)

def statusRequest (target : RebootTarget) : StatusRequest :=
  target.statusRequest (!c.configuration.deviations.statusWithoutPaths)

theorem exists_of_runs_awaitReboot
    {target : RebootTarget} {limit : Duration} {start stop : Instant}
    {transcript : Transcript bench} {report : PollReport}
    (hrun : (c.awaitReboot target limit).Runs start transcript (some (.ok report)) stop) :
    ∃ before status,
      transcript = before ++ [⟨.rebootStatus (c.statusRequest target), .ok status⟩] ∧
        status.active = false := by
  unfold awaitReboot at hrun
  obtain ⟨polling, rest, found, middle, rfl, hpoll, hrest⟩ :=
    Timed.runs_bind_some_iff.mp hrun
  obtain ⟨rfl, hend, -⟩ := Timed.runs_pure_iff.mp hrest
  have hresult : found.result target.component limit = .ok report :=
    (Option.some.inj hend).symm
  rw [List.append_nil]
  exact StatusPoll.exists_of_runs_poll hpoll (PollReport.state_eq_of_result_eq_ok hresult)

theorem isFollowUp_awaitReboot (target : RebootTarget) (limit : Duration) :
    (c.awaitReboot target limit).IsFollowUp (c.statusRequest target) := by
  unfold awaitReboot
  refine Timed.guarantees_bind (StatusPoll.guarantees_poll c.patience limit) ?_
  intro report _
  exact Timed.guarantees_pure (report.settles_result target.component limit)

theorem exists_of_runs_awaitState
    {what component : String} {limit : Duration} {accept : ComponentState → Bool}
    {start stop : Instant} {transcript : Transcript bench} {state : ComponentState}
    (hrun : (c.awaitState what component limit accept).Runs start transcript
      (some (.ok state)) stop) :
    ∃ before, transcript = before ++ [⟨.componentState component, .ok state⟩] ∧
      accept state = true := by
  unfold awaitState at hrun
  obtain ⟨before, last, rfl, hread, haccept⟩ := Wait.exists_of_runs_await hrun
  obtain ⟨answer, rest, rfl, hrest⟩ := Dialogue.produces_question_bind_iff.mp hread
  obtain ⟨rfl, hend⟩ := Dialogue.produces_done_iff.mp hrest
  cases answer with
  | error e => cases hend
  | ok found =>
      cases hend
      exact ⟨before, rfl, haccept⟩

theorem isFollowUp_awaitState
    {request : StatusRequest} (what component : String) (limit : Duration)
    (accept : ComponentState → Bool) :
    (c.awaitState what component limit accept).IsFollowUp request := by
  unfold awaitState
  refine Wait.isFollowUp_await ?_ _ _ _ _
  refine Dialogue.guarantees_question_bind trivial ?_
  intro answer
  exact Dialogue.guarantees_done trivial

end Campaign

end CardReboot
