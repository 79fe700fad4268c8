import CardReboot.ExpectedCount
import CardReboot.Failure
import CardReboot.Text.Basic
import CardReboot.Text.CharSet

/-!
# Configuration

Which device is tested, what its chassis holds, where it deviates from the
reboot service, how long everything may take, and how traffic is made.  Every
setting has a default, so an empty configuration is a valid one with all
topology checks off.
-/

namespace CardReboot

inductive Vendor
  | juniper
  | arista
  | cisco
  | nokia
  | other
  deriving DecidableEq, Repr

namespace Vendor

/-- The word for the vendor in a configuration. -/
def word : Vendor → String
  | .juniper => "juniper"
  | .arista => "arista"
  | .cisco => "cisco"
  | .nokia => "nokia"
  | .other => "other"

def all : List Vendor := [.juniper, .arista, .cisco, .nokia, .other]

def ofWord? (text : String) : Option Vendor := all.find? fun v => v.word == text

end Vendor

/-- How the device under test is reached. -/
structure Target where
  address : String := "127.0.0.1:9339"
  username : String := "admin"
  password : String := ""
  insecure : Bool := true
  sshHost : Option String := none
  deriving DecidableEq, Repr

/-- The host for console commands: the address without its port, unless another
one is given. -/
def Target.consoleHost (t : Target) : String :=
  match t.sshHost with
  | some host => host
  | none =>
      match Text.beforeLast? ':' t.address.toList with
      | some host => String.ofList host
      | none => t.address

/-- What the chassis is declared to hold, and the ports bound to the testbed. -/
structure Topology where
  controllerCards : ExpectedCount := .undeclared
  linecards : ExpectedCount := .undeclared
  fabrics : ExpectedCount := .undeclared
  ports : List String := []
  boundInterfacesOnly : Bool := false
  deriving DecidableEq, Repr

/-- The port that traffic enters by is the first one. -/
def Topology.ingressPort? (t : Topology) : Option String := t.ports.head?

/-- Where the device departs from the reboot service. -/
structure Deviations where
  pathNameOnly : Bool := false
  statusWithoutPaths : Bool := false
  fabricRebootUnsupported : Bool := false
  deriving DecidableEq, Repr

/-- Pauses and limits, in seconds. -/
structure Timing where
  pollInterval : Nat := 5
  controllerSettle : Nat := 60
  linecardSettle : Nat := 10
  controllerBoot : Nat := 600
  linecardBoot : Nat := 600
  fabricBoot : Nat := 600
  linecardRecovery : Nat := 600
  fabricRecovery : Nat := 300
  deriving DecidableEq, Repr

/-- How dropped packets are sampled and which commands make the traffic. -/
structure TrafficPlan where
  sampleInterval : Nat := 30
  samples : Nat := 10
  startCommand : Option String := none
  stopCommand : Option String := none
  deriving DecidableEq, Repr

structure Configuration where
  vendor : Vendor := .other
  target : Target := {}
  topology : Topology := {}
  deviations : Deviations := {}
  timing : Timing := {}
  traffic : TrafficPlan := {}
  deriving DecidableEq, Repr

namespace Configuration

/-- The first setting that makes the configuration useless is refused. -/
def check (c : Configuration) : Outcome Unit :=
  if Text.isBlankText c.target.address.toList then
    .error (.invalidConfiguration "target.address" "address cannot be empty")
  else if c.timing.pollInterval = 0 then
    .error (.invalidConfiguration "timing.state_poll_interval_secs"
      "interval must be non-zero")
  else if c.traffic.sampleInterval = 0 then
    .error (.invalidConfiguration "traffic.sample_interval_secs" "interval must be non-zero")
  else if c.traffic.samples = 0 then
    .error (.invalidConfiguration "traffic.iterations" "at least one sample is required")
  else if c.vendor = .juniper ∧ c.traffic.startCommand = none then
    .error (.invalidConfiguration "traffic.start_command"
      "the Juniper line card traffic-drop check needs a traffic generator")
  else .ok ()

end Configuration

end CardReboot
