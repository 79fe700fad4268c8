import CardReboot.Configuration.Basic
import CardReboot.DropWindow
import CardReboot.Inventory
import CardReboot.Port
import CardReboot.RebootCase
import CardReboot.Snapshot
import CardReboot.StatusPoll

/-!
# Running the cases

Each case picks one card, reboots it alone and then has to see it come back
without harm to the rest: the standby controller has to report a role again, a
line card to report itself removable, a fabric card to be active, and the
interfaces that were up before to be up again.  On Juniper a line card also has
to forward traffic without handing packets to an exception path.

A case ends at its first failure, and the next case starts all the same.
-/

namespace CardReboot

/-- What the cases are run with: the settings, whether a traffic generator is
attached, and how many rounds a wait without a deadline may take. -/
structure Campaign where
  configuration : Configuration
  hasGenerator : Bool := false
  patience : Nat

/-- How a procedure of a case can leave it early. -/
inductive Exit
  | skip (reason : String)
  | fail (failure : Failure)

/-- One step of a case: it goes on, or the case is over. -/
abbrev Step (α : Type) := ExceptT Exit (Timed bench) α

namespace Step

def skip {α : Type} (reason : String) : Step α := throw (.skip reason)

/-- Goes on with a success and ends the case with a failure. -/
def ofOutcome {α : Type} : Outcome α → Step α
  | .ok value => pure value
  | .error failure => throw (.fail failure)

/-- Goes on with what was selected and ends the case with a skip. -/
def ofSelection {α : Type} (outcome : Outcome (Selection α)) : Step α := do
  match ← ofOutcome outcome with
  | .selected choice => pure choice
  | .skip reason => skip reason

def timed {α : Type} (d : Timed bench (Outcome α)) : Step α := do
  ofOutcome (← ExceptT.lift d)

def asked {α : Type} (d : Dialogue bench (Outcome α)) : Step α :=
  timed (Timed.ask d)

def pause (d : Duration) : Step Unit := ExceptT.lift (Timed.pause d)

end Step

namespace Campaign

variable (c : Campaign)

def target (component : String) : RebootTarget :=
  .cold component c.configuration.deviations.pathNameOnly

def scope : InterfaceScope :=
  .ofBinding c.configuration.topology.ports c.configuration.topology.boundInterfacesOnly

def ingressPort : Outcome String :=
  match c.configuration.topology.ingressPort? with
  | some port => .ok port
  | none =>
      .error (.invalidConfiguration "topology.ports" "the ingress port is not configured")

/-- The failure that a refused or lost reboot request is. -/
def rebootFailure (component : String) : DeviceError → Failure
  | .rejected _ reason => .rebootRejected component reason
  | e => .during ("reboot of " ++ component) e

def issueReboot (target : RebootTarget) : Dialogue bench (Outcome Unit) := do
  match ← Bench.reboot target with
  | .error e => return .error (rebootFailure target.component e)
  | .ok () => return .ok ()

/-- Polls until the reboot is over. -/
def awaitReboot (target : RebootTarget) (limit : Duration) :
    Timed bench (Outcome PollReport) := do
  let request := target.statusRequest (!c.configuration.deviations.statusWithoutPaths)
  let report ← StatusPoll.poll c.patience limit request
  return report.result target.component limit

/-- Reads the state of a card until it is acceptable. -/
def awaitState (what component : String) (limit : Duration) (accept : ComponentState → Bool) :
    Timed bench (Outcome ComponentState) :=
  let wait : Wait :=
    ⟨what ++ " of " ++ component, .ofSeconds c.configuration.timing.pollInterval, limit⟩
  let read : Dialogue bench (Except String ComponentState) := do
    return (← Bench.componentState component).mapError DeviceError.message
  wait.await c.patience read accept ComponentState.text

def awaitInterfaces (limit : Duration) (pre : Snapshot) : Timed bench (Outcome Snapshot) :=
  Recovery.await c.patience (.ofSeconds c.configuration.timing.pollInterval) limit pre c.scope

def checkDrops (linecard : String) : Step Unit := do
  let ingress ← Step.ofOutcome c.ingressPort
  let plan := c.configuration.traffic
  let report ← Step.timed
    (DropWindow.watch (.ofSeconds plan.sampleInterval) plan.samples linecard ingress)
  Step.ofOutcome report.result

/-- Reboots the standby controller card and waits for it to rejoin. -/
def standbyController : Step Unit := do
  let timing := c.configuration.timing
  let inventory ← Step.asked (Inventory.fetch .controllerCard)
  let pair ← Step.ofSelection
    (inventory.selectControllers c.configuration.topology.controllerCards)
  let standby := pair.standby.name
  Step.asked (issueReboot (c.target standby))
  Step.pause (.ofSeconds timing.controllerSettle)
  let _ ← Step.timed (c.awaitState "redundant role" standby (.ofSeconds timing.controllerBoot)
    fun state => state.role.isSome)

/-- The line card that is pinned by the ingress port, for the vendor whose ports
tell their line card. -/
def pinnedLinecard : Outcome (Option String) :=
  if c.configuration.vendor = .juniper then do
    let port ← c.ingressPort
    return some (← Port.linecardOf port)
  else .ok none

/-- Reboots a removable line card, waits for the card and the interfaces, and
watches for dropped packets where that can be done. -/
def linecard : Step Unit := do
  let timing := c.configuration.timing
  let inventory ← Step.asked (Inventory.fetch .linecard)
  let pinned ← Step.ofOutcome c.pinnedLinecard
  let card ← Step.ofSelection
    (inventory.selectLinecard c.configuration.topology.linecards pinned)
  let pre ← Step.asked (captureBefore c.scope)
  let target := c.target card.name
  Step.asked (issueReboot target)
  Step.pause (.ofSeconds timing.linecardSettle)
  let boot := Duration.ofSeconds timing.linecardBoot
  let _ ← Step.timed (c.awaitReboot target boot)
  let _ ← Step.timed (c.awaitState "removable flag" card.name boot
    fun state => state.removable == some true)
  let _ ← Step.timed (c.awaitInterfaces (.ofSeconds timing.linecardRecovery) pre)
  if c.configuration.vendor = .juniper then
    if c.hasGenerator then c.checkDrops card.name
    else Step.skip "traffic-drop check needs a traffic generator"

/-- Reboots a removable fabric card and waits for it and the interfaces. -/
def fabric : Step Unit := do
  if c.configuration.deviations.fabricRebootUnsupported then
    Step.skip "fabric component reboot is unsupported on this platform"
  let timing := c.configuration.timing
  let inventory ← Step.asked (Inventory.fetch .fabric)
  let card ← Step.ofSelection (inventory.selectFabric c.configuration.topology.fabrics)
  let pre ← Step.asked (captureBefore c.scope)
  let target := c.target card.name
  Step.asked (issueReboot target)
  let boot := Duration.ofSeconds timing.fabricBoot
  let _ ← Step.timed (c.awaitReboot target boot)
  let _ ← Step.timed (c.awaitState "oper-status" card.name boot
    fun state => state.status == some .active)
  let _ ← Step.timed (c.awaitInterfaces (.ofSeconds timing.fabricRecovery) pre)

def steps : RebootCase → Step Unit
  | .standbyController => c.standbyController
  | .linecard => c.linecard
  | .fabric => c.fabric

def verdict : Except Exit Unit → Verdict
  | .ok () => .passed
  | .error (.skip reason) => .skipped reason
  | .error (.fail failure) => .failed failure

/-- Runs one case. -/
def runCase (case : RebootCase) : Timed bench CaseReport := do
  let start ← Timed.now
  let result ← (c.steps case).run
  return ⟨case, verdict result, (← Timed.now).since start⟩

/-- Runs the cases in order. -/
def runCases : List RebootCase → Timed bench (List CaseReport)
  | [] => return []
  | case :: rest => do
      let report ← c.runCase case
      return report :: (← runCases rest)

end Campaign

end CardReboot
