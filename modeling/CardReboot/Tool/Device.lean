import CardReboot.Bench
import CardReboot.Host
import CardReboot.Tool.Command
import CardReboot.Tool.Status
import CardReboot.Tool.Update

/-!
# The device behind the tools

Every request to the bench is carried out by commands on the host.  A state
query about a path that the device does not know has no values; any other
failure of a tool is a device error.  The traffic generator is driven by two
commands of its own, and stopping it may need none.

The status code of a remote call reaches the host only as text.  A complaint is
sorted by the words in it, and what names no known code counts as a call that
got lost.
-/

namespace CardReboot.Tool

/-- The device error that a complaint about a call is. -/
def complaintError (rpc complaint : String) : DeviceError :=
  if mentions complaint "Unimplemented" || mentions complaint "unknown service" then
    .unimplemented rpc complaint
  else if mentions complaint "FailedPrecondition" || mentions complaint "InvalidArgument" ||
      mentions complaint "AlreadyExists" then
    .rejected rpc complaint
  else .transport rpc complaint

/-- Whether a complaint says that the path does not exist. -/
def tellsOfAbsence (complaint : String) : Bool :=
  mentions complaint "NotFound" || mentions complaint "not found"

/-- Runs a reboot call and gives its output. -/
def call (rpc command : String) : Dialogue host (Answered String) := do
  match ← Host.run command with
  | .error e => return .error e
  | .ok result =>
      if result.succeeded then return .ok result.output
      return .error (complaintError rpc result.combined)

/-- The values under a path. -/
def get (t : Target) (path : String) : Dialogue host (Answered (List Update)) := do
  match ← Host.run (getCommand t path) with
  | .error e => return .error e
  | .ok result =>
      if result.succeeded then return Update.decode path result.output
      if tellsOfAbsence result.combined then return .ok []
      return .error (complaintError "Get" result.combined)

/-- The first value under a path. -/
def leaf (t : Target) (path : String) : Dialogue host (Answered (Option Json)) := do
  match ← get t path with
  | .error e => return .error e
  | .ok updates => return .ok (updates.head?.map Update.value)

def reboot (t : Target) (target : RebootTarget) : Dialogue host (Answered Unit) := do
  match ← call "Reboot" (rebootCommand t target) with
  | .error e => return .error e
  | .ok _ => return .ok ()

def rebootStatus (t : Target) (request : StatusRequest) :
    Dialogue host (Answered RebootStatus) := do
  match ← call "RebootStatus" (statusCommand t request) with
  | .error e => return .error e
  | .ok output => return decodeStatus output

/-- The path of all cards' types. -/
def typePath : String := "/components/component/state/type"

/-- The path of one leaf of a card's state. -/
def statePath (component leaf : String) : String :=
  "/components/component[name=" ++ component ++ "]/state/" ++ leaf

def interfaceNamePath : String := "/interfaces/interface/state/name"

def interfacePath (interface leaf : String) : String :=
  "/interfaces/interface[name=" ++ interface ++ "]/state/" ++ leaf

def readComponentNames (t : Target) (type : ComponentType) :
    Dialogue host (Answered (List String)) := do
  match ← get t typePath with
  | .error e => return .error e
  | .ok updates => return .ok (componentNames type updates)

/-- What the four leaves of a card say. -/
def stateOf (removable empty role status : Option Json) : ComponentState where
  removable := removable.bind Update.flag?
  empty := empty.bind Update.flag?
  role := (role.bind Update.text?).map RedundantRole.parse
  status := (status.bind Update.text?).bind ComponentStatus.parse?

/-- Reads the four leaves in turn. -/
def readComponentState (t : Target) (component : String) :
    Dialogue host (Answered ComponentState) := do
  match ← leaf t (statePath component "removable") with
  | .error e => return .error e
  | .ok removable =>
  match ← leaf t (statePath component "empty") with
  | .error e => return .error e
  | .ok empty =>
  match ← leaf t (statePath component "redundant-role") with
  | .error e => return .error e
  | .ok role =>
  match ← leaf t (statePath component "oper-status") with
  | .error e => return .error e
  | .ok status => return .ok (stateOf removable empty role status)

def readInterfaceNames (t : Target) : Dialogue host (Answered (List String)) := do
  match ← get t interfaceNamePath with
  | .error e => return .error e
  | .ok updates => return .ok (interfaceNames updates)

/-- An interface that reports no status has an unknown one. -/
def readInterfaceStatus (t : Target) (interface : String) :
    Dialogue host (Answered InterfaceStatus) := do
  match ← leaf t (interfacePath interface "oper-status") with
  | .error e => return .error e
  | .ok value =>
      return .ok (((value.bind Update.text?).map InterfaceStatus.parse).getD .unknown)

/-- A counter that is not reported is an error. -/
def readIngressPackets (t : Target) (interface : String) : Dialogue host (Answered Nat) := do
  let path := interfacePath interface "counters/in-pkts"
  match ← leaf t path with
  | .error e => return .error e
  | .ok value =>
      match value.bind Update.counter? with
      | some n => return .ok n
      | none => return .error (.decode path "in-pkts not reported")

/-- What a console command printed: its output, or as an error what a failed
command wrote. -/
def consoleOutput (result : ProcessResult) : CommandOutput :=
  if result.succeeded then .ok result.output else .failed result.combined

def runConsole (t : Target) (command : String) : Dialogue host (Answered CommandOutput) := do
  match ← Host.run (consoleCommand t command) with
  | .error e => return .error e
  | .ok result => return .ok (consoleOutput result)

/-- Runs a traffic command, if there is one. -/
def runTraffic : Option String → Dialogue host (Answered Unit)
  | none => return .ok ()
  | some command => do
      match ← Host.runChecked command with
      | .error e => return .error e
      | .ok _ => return .ok ()

/-- Carries a request to the bench out on the host. -/
def carry (t : Target) (plan : TrafficPlan) : (q : BenchRequest) → Dialogue host q.Answer
  | .reboot target => reboot t target
  | .rebootStatus request => rebootStatus t request
  | .componentNames type => readComponentNames t type
  | .componentState name => readComponentState t name
  | .interfaceNames => readInterfaceNames t
  | .interfaceStatus name => readInterfaceStatus t name
  | .ingressPackets interface => readIngressPackets t interface
  | .console command => runConsole t command
  | .startTraffic => runTraffic plan.startCommand
  | .stopTraffic => runTraffic plan.stopCommand
  | .pause d => Pausing.pause d

/-- The generator is there exactly when it has a start command. -/
def hasGenerator (plan : TrafficPlan) : Bool := plan.startCommand.isSome

end CardReboot.Tool
