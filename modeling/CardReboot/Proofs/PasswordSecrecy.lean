import CardReboot.Proofs.CarriedOut
import CardReboot.Proofs.CommandWords
import CardReboot.Shell.Execution
import CardReboot.Tool.Device

/-!
# The password and the answers

The password stands in the calls of the tools and in nothing else.  Where processes do not
see it, a request is answered in the same way with every password, and so is every
dialogue with the bench.  There is one exception: a call that cannot be started is quoted
in the error, with the password in it.
-/

namespace CardReboot

def Target.withPassword (t : Target) (password : String) : Target :=
  { t with password := password }

namespace Shell

theorem isPassable_append (first second : String) :
    isPassable (first ++ second) = (isPassable first && isPassable second) := by
  simp [isPassable]

theorem isPassable_quoteArgument (argument : String) :
    isPassable (quoteArgument argument) = isPassable argument := by
  have hescape : ∀ c : Char,
      (escapeChar c).any (fun c => c.toNat == 0) = (c.toNat == 0) := by
    intro c
    unfold escapeChar
    split <;> simp
  simp [isPassable, quoteArgument, quoteText, List.any_flatMap, hescape]

end Shell

namespace Tool

open Dialogue

/-! ## Calls -/

namespace Invocation

def HoldsPassword : Invocation → Prop
  | .console _ => False
  | _ => True

/-- Whether a call can be handed to a process does not depend on a password that can be. -/
theorem isPassable_command
    {t : Target} {password : String} (hold : Shell.isPassable t.password = true)
    (hnew : Shell.isPassable password = true) (i : Invocation) :
    Shell.isPassable (i.command (t.withPassword password)) = Shell.isPassable (i.command t) := by
  have hconnection : Shell.isPassable (connectionOptions (t.withPassword password)) =
      Shell.isPassable (connectionOptions t) := by
    simp only [connectionOptions, Shell.isPassable_append, Shell.isPassable_quoteArgument]
    rw [hold, show (t.withPassword password).password = password from rfl, hnew]
    rfl
  cases i with
  | reboot target =>
      simp only [command, rebootCommand, Shell.isPassable_append, hconnection]
  | status request =>
      simp only [command, statusCommand, Shell.isPassable_append, hconnection]
  | get path => simp only [command, getCommand, Shell.isPassable_append, hconnection]
  | console command => rfl

end Invocation

/-! ## Processes that do not see the password -/

/-- Where the processes come from: whatever the command is, each of them is refused a
start for some reason or leaves something behind. -/
structure ProcessSource (σ : Type) where
  next : σ → Except String ProcessResult × σ
  wait : Duration → σ → σ

namespace ProcessSource

variable {σ : Type} (source : ProcessSource σ)

/-- A command that cannot be handed to a process takes none. -/
def start (command : String) (state : σ) : Answered ProcessResult × σ :=
  if Shell.isPassable command then
    ((source.next state).1.mapError (.shellExec command), (source.next state).2)
  else (.error (Shell.impassable command), state)

def responder : Responder host σ where
  reply
    | .run command, state => source.start command state
    | .pause d, state => ((), source.wait d state)

end ProcessSource

/-! ## Dialogues in step -/

/-- Equal answers, or the same call that neither side could start. -/
inductive Alike {α : Type} (t t' : Target) : Answered α → Answered α → Prop
  | same (answer : Answered α) : Alike t t' answer answer
  | unstarted {i : Invocation} (hpassword : i.HoldsPassword) (reason : String) :
      Alike t t' (.error (.shellExec (i.command t) reason))
        (.error (.shellExec (i.command t') reason))

/-- The two sides ask the same, only that each makes its own calls, and where they are
answered alike they end in such a pair of results. -/
inductive InStep {α : Type} (t t' : Target) (ends : α → α → Prop) :
    Dialogue host α → Dialogue host α → Prop
  | done {a a' : α} (hends : ends a a') : InStep t t' ends (.done a) (.done a')
  | ask {q : HostRequest} {next next' : q.Answer → Dialogue host α}
      (hnext : ∀ answer, InStep t t' ends (next answer) (next' answer)) :
      InStep t t' ends (.ask (I := host) q next) (.ask (I := host) q next')
  | call {i : Invocation} {next next' : Answered ProcessResult → Dialogue host α}
      (hpassword : i.HoldsPassword)
      (hnext : ∀ answer answer', Alike t t' answer answer' →
        InStep t t' ends (next answer) (next' answer')) :
      InStep t t' ends (.ask (I := host) (.run (i.command t)) next)
        (.ask (I := host) (.run (i.command t')) next')

namespace InStep

variable {t t' : Target} {α β : Type}

theorem refl {ends : α → α → Prop} (hends : ∀ a, ends a a) (d : Dialogue host α) :
    InStep t t' ends d d := by
  induction d with
  | done a => exact .done (hends a)
  | ask question next ih => exact .ask ih

theorem bind
    {middle : α → α → Prop} {ends : β → β → Prop} {d d' : Dialogue host α}
    {f f' : α → Dialogue host β} (hd : InStep t t' middle d d')
    (hf : ∀ a a', middle a a' → InStep t t' ends (f a) (f' a')) :
    InStep t t' ends (d >>= f) (d' >>= f') := by
  induction hd with
  | done hends => exact hf _ _ hends
  | ask hnext ih => exact .ask ih
  | call hpassword hnext ih => exact .call hpassword ih

/-- A request that fails when the one before it failed. -/
theorem andThen
    {d d' : Dialogue host (Answered α)} {f f' : Answered α → Dialogue host (Answered β)}
    (hd : InStep t t' (Alike t t') d d')
    (herror : ∀ e, f (.error e) = .done (.error e) ∧ f' (.error e) = .done (.error e))
    (hok : ∀ a, InStep t t' (Alike t t') (f (.ok a)) (f' (.ok a))) :
    InStep t t' (Alike t t') (d >>= f) (d' >>= f') := by
  apply hd.bind
  intro answer answer' halike
  cases halike with
  | same answer =>
      rcases answer with e | a
      · rw [(herror e).1, (herror e).2]
        exact .done (.same _)
      · exact hok a
  | unstarted hpassword reason =>
      rw [(herror _).1, (herror _).2]
      exact .done (.unstarted hpassword reason)

theorem run {i : Invocation} (hpassword : i.HoldsPassword) :
    InStep t t' (Alike t t') (Host.run (i.command t)) (Host.run (i.command t')) :=
  .call hpassword fun _ _ halike => .done halike

theorem call_command {i : Invocation} (hpassword : i.HoldsPassword) (rpc : String) :
    InStep t t' (Alike t t') (Tool.call rpc (i.command t)) (Tool.call rpc (i.command t')) := by
  unfold Tool.call
  refine (run hpassword).andThen (fun _ => ⟨rfl, rfl⟩) fun result => ?_
  exact refl .same _

theorem get (path : String) :
    InStep t t' (Alike t t') (Tool.get t path) (Tool.get t' path) := by
  unfold Tool.get
  refine (run (i := .get path) trivial).andThen (fun _ => ⟨rfl, rfl⟩) fun result => ?_
  exact refl .same _

theorem leaf (path : String) :
    InStep t t' (Alike t t') (Tool.leaf t path) (Tool.leaf t' path) := by
  unfold Tool.leaf
  refine (get path).andThen (fun _ => ⟨rfl, rfl⟩) fun updates => ?_
  exact refl .same _

theorem readComponentState (component : String) :
    InStep t t' (Alike t t') (Tool.readComponentState t component)
      (Tool.readComponentState t' component) := by
  unfold Tool.readComponentState
  refine (leaf (statePath component "removable")).andThen
    (fun _ => ⟨rfl, rfl⟩) fun removable => ?_
  refine (leaf (statePath component "empty")).andThen (fun _ => ⟨rfl, rfl⟩) fun empty => ?_
  refine (leaf (statePath component "redundant-role")).andThen
    (fun _ => ⟨rfl, rfl⟩) fun role => ?_
  refine (leaf (statePath component "oper-status")).andThen
    (fun _ => ⟨rfl, rfl⟩) fun status => ?_
  exact refl .same _

end InStep

/-! ## Requests to the bench -/

/-- The answers to a request are alike, or equal where its commands hold no password. -/
def AnswersAlike (t t' : Target) : (q : BenchRequest) → q.Answer → q.Answer → Prop
  | .reboot _ | .rebootStatus _ | .componentNames _ | .componentState _ | .interfaceNames
  | .interfaceStatus _ | .ingressPackets _ => Alike t t'
  | .console _ | .startTraffic | .stopTraffic | .pause _ => Eq

theorem inStep_carry (t : Target) (password : String) (plan : TrafficPlan) (q : BenchRequest) :
    InStep t (t.withPassword password) (AnswersAlike t (t.withPassword password) q)
      (carry t plan q) (carry (t.withPassword password) plan q) := by
  cases q with
  | reboot target =>
      unfold carry reboot
      refine (InStep.call_command (i := .reboot target) trivial "Reboot").andThen
        (fun _ => ⟨rfl, rfl⟩) fun output => ?_
      exact .refl .same _
  | rebootStatus request =>
      unfold carry rebootStatus
      refine (InStep.call_command (i := .status request) trivial "RebootStatus").andThen
        (fun _ => ⟨rfl, rfl⟩) fun output => ?_
      exact .refl .same _
  | componentNames type =>
      unfold carry readComponentNames
      refine (InStep.get typePath).andThen (fun _ => ⟨rfl, rfl⟩) fun updates => ?_
      exact .refl .same _
  | componentState component => exact .readComponentState component
  | interfaceNames =>
      unfold carry readInterfaceNames
      refine (InStep.get interfaceNamePath).andThen (fun _ => ⟨rfl, rfl⟩) fun updates => ?_
      exact .refl .same _
  | interfaceStatus interface =>
      unfold carry readInterfaceStatus
      refine (InStep.leaf (interfacePath interface "oper-status")).andThen
        (fun _ => ⟨rfl, rfl⟩) fun value => ?_
      exact .refl .same _
  | ingressPackets interface =>
      unfold carry readIngressPackets
      refine (InStep.leaf (interfacePath interface "counters/in-pkts")).andThen
        (fun _ => ⟨rfl, rfl⟩) fun value => ?_
      exact .refl .same _
  | console command => exact .refl (fun _ => rfl) _
  | startTraffic => exact .refl (fun _ => rfl) _
  | stopTraffic => exact .refl (fun _ => rfl) _
  | pause d => exact .refl (fun _ => rfl) _

/-- The answer is the error for a call that could not be started, with its password. -/
def QuotesCall (t : Target) : (q : BenchRequest) → q.Answer → Prop
  | .reboot _ | .rebootStatus _ | .componentNames _ | .componentState _ | .interfaceNames
  | .interfaceStatus _ | .ingressPackets _ => fun answer =>
      ∃ (i : Invocation) (reason : String),
        i.HoldsPassword ∧ answer = .error (.shellExec (i.command t) reason)
  | .console _ | .startTraffic | .stopTraffic | .pause _ => fun _ => False

theorem AnswersAlike.eq
    {t t' : Target} {q : BenchRequest} {answer answer' : q.Answer}
    (halike : AnswersAlike t t' q answer answer') (hquotes : ¬ QuotesCall t q answer) :
    answer' = answer := by
  cases q with
  | console _ | startTraffic | stopTraffic | pause _ => exact halike.symm
  | _ =>
      cases halike with
      | same answer => rfl
      | unstarted hpassword reason => exact absurd ⟨_, reason, hpassword, rfl⟩ hquotes

/-! ## Runs over the same processes -/

section Runs

variable {σ α : Type} {t : Target} {password : String} (source : ProcessSource σ)
  (hold : Shell.isPassable t.password = true) (hnew : Shell.isPassable password = true)
include hold hnew

theorem ProcessSource.alike_start
    {i : Invocation} (hpassword : i.HoldsPassword) (state : σ) :
    Alike t (t.withPassword password) (source.start (i.command t) state).1
        (source.start (i.command (t.withPassword password)) state).1 ∧
      (source.start (i.command (t.withPassword password)) state).2 =
        (source.start (i.command t) state).2 := by
  unfold start
  rw [i.isPassable_command hold hnew]
  split
  · rcases (source.next state).1 with reason | result
    · exact ⟨.unstarted hpassword reason, rfl⟩
    · exact ⟨.same (.ok result), rfl⟩
  · exact ⟨.unstarted hpassword "nul byte found in provided data", rfl⟩

theorem InStep.run_responder
    {ends : α → α → Prop} {d d' : Dialogue host α}
    (hd : InStep t (t.withPassword password) ends d d') (state : σ) :
    ends (d.run source.responder state).1 (d'.run source.responder state).1 ∧
      (d'.run source.responder state).2 = (d.run source.responder state).2 := by
  induction hd generalizing state with
  | done hends => exact ⟨hends, rfl⟩
  | ask hnext ih => exact ih _ _
  | @call i next next' hpassword hnext ih =>
      obtain ⟨halike, hstate⟩ := source.alike_start hold hnew hpassword state
      change ends
          ((next (source.start (i.command t) state).1).run source.responder
            (source.start (i.command t) state).2).1
          ((next' (source.start (i.command (t.withPassword password)) state).1).run
            source.responder (source.start (i.command (t.withPassword password)) state).2).1 ∧
        ((next' (source.start (i.command (t.withPassword password)) state).1).run
            source.responder (source.start (i.command (t.withPassword password)) state).2).2 =
          ((next (source.start (i.command t) state).1).run source.responder
            (source.start (i.command t) state).2).2
      rw [hstate]
      exact ih _ _ halike _

theorem run_through_withPassword
    (plan : TrafficPlan) {d : Dialogue bench α} {state : σ}
    (hquotes : ∀ e ∈ d.transcript (source.responder.through (carry t plan)) state,
      ¬ QuotesCall t e.question e.answer) :
    d.run (source.responder.through (I := bench) (carry (t.withPassword password) plan)) state =
      d.run (source.responder.through (I := bench) (carry t plan)) state := by
  induction d generalizing state with
  | done value => rw [run_done, run_done]
  | ask question next ih =>
      rw [Dialogue.transcript, List.forall_mem_cons] at hquotes
      obtain ⟨hfirst, hrest⟩ := hquotes
      obtain ⟨halike, hstate⟩ := (inStep_carry t password plan question).run_responder source
        hold hnew state
      have hreply :
          (source.responder.through (I := bench) (carry (t.withPassword password) plan)).reply
              question state =
            (source.responder.through (I := bench) (carry t plan)).reply question state :=
        Prod.ext (halike.eq hfirst) hstate
      rw [run_ask, run_ask, hreply]
      exact ih _ hrest

theorem run_carryOut_withPassword
    (plan : TrafficPlan) {d : Dialogue bench α} {state : σ}
    (hquotes : ∀ e ∈ d.transcript (source.responder.through (carry t plan)) state,
      ¬ QuotesCall t e.question e.answer) :
    (d.carryOut (carry (t.withPassword password) plan)).run source.responder state =
      (d.carryOut (carry t plan)).run source.responder state := by
  calc
    (d.carryOut (carry (t.withPassword password) plan)).run source.responder state =
        d.run (source.responder.through (I := bench) (carry (t.withPassword password) plan))
          state := run_carryOut _ d state
    _ = d.run (source.responder.through (I := bench) (carry t plan)) state :=
      run_through_withPassword source hold hnew plan hquotes
    _ = (d.carryOut (carry t plan)).run source.responder state := (run_carryOut _ d state).symm

end Runs

end Tool

end CardReboot
