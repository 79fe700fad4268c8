import CardReboot.Configuration.Basic
import CardReboot.Text.Octets
import CardReboot.Toml.Reader

/-!
# Reading a configuration

Settings stand in sections of a TOML document.  A setting that is missing has
its default, and a value of the wrong type or out of range is an error.  A
section may also be given as a list of its settings in the order in which they
are declared here.  Settings that are not known are passed over, except in the
section for pauses and limits, where a misspelt name would go unnoticed.
-/

namespace CardReboot

/-- The settings of one section that are given. -/
structure Section where
  given : List (String × Toml)

namespace Section

/-- What stands for a section: a table, or a list of the first settings.  A date
holds one setting that no section knows. -/
def ofToml? (names : List String) : Toml → Option Section
  | .table entries => some ⟨entries⟩
  | .array items => some ⟨names.zip items⟩
  | .date => some ⟨[("date", .date)]⟩
  | _ => none

/-- Whether all settings have one of these names. -/
def hasOnly (names : List String) (s : Section) : Bool :=
  s.given.all fun setting => names.contains setting.1

/-- The setting of this name, or its default. -/
def read {α : Type} (s : Section) (name : String) (value? : Toml → Option α) (default : α) :
    Option α :=
  match s.given.lookup name with
  | some v => value? v
  | none => some default

end Section

namespace Toml

def text? : Toml → Option String
  | string s => some s
  | _ => none

def flag? : Toml → Option Bool
  | boolean b => some b
  | _ => none

/-- A whole number from `low` to below `limit`. -/
def integerIn? (low limit : Int) : Toml → Option Int
  | integer n => if low ≤ n ∧ n < limit then some n else none
  | _ => none

/-- A whole number that is not negative and stays below `limit`. -/
def countBelow? (limit : Int) (v : Toml) : Option Nat := (integerIn? 0 limit v).map Int.toNat

def texts? : Toml → Option (List String)
  | array items => items.mapM text?
  | _ => none

end Toml

namespace Configuration

def expected? (v : Toml) : Option ExpectedCount :=
  (Toml.integerIn? (-Nat.pow 2 31) (Nat.pow 2 31) v).map ExpectedCount.mk

def seconds? (v : Toml) : Option Nat := Toml.countBelow? (Nat.pow 2 64) v

def samples? (v : Toml) : Option Nat := Toml.countBelow? (Nat.pow 2 32) v

def someText? (v : Toml) : Option (Option String) := v.text?.map some

/-- The vendor by its word, or by its word as the only key of a table with
nothing under it. -/
def vendor? : Toml → Option Vendor
  | .string word => Vendor.ofWord? word
  | .table [(word, .table [])] | .table [(word, .array [])] => Vendor.ofWord? word
  | _ => none

def targetNames : List String := ["address", "username", "password", "insecure", "ssh_host"]

def target? (v : Toml) : Option Target := do
  let s ← Section.ofToml? targetNames v
  let d : Target := {}
  return {
    address := ← s.read "address" Toml.text? d.address
    username := ← s.read "username" Toml.text? d.username
    password := ← s.read "password" Toml.text? d.password
    insecure := ← s.read "insecure" Toml.flag? d.insecure
    sshHost := ← s.read "ssh_host" someText? d.sshHost }

def topologyNames : List String :=
  ["controller_cards", "linecards", "fabrics", "ports", "check_interfaces_in_binding"]

def topology? (v : Toml) : Option Topology := do
  let s ← Section.ofToml? topologyNames v
  let d : Topology := {}
  return {
    controllerCards := ← s.read "controller_cards" expected? d.controllerCards
    linecards := ← s.read "linecards" expected? d.linecards
    fabrics := ← s.read "fabrics" expected? d.fabrics
    ports := ← s.read "ports" Toml.texts? d.ports
    boundInterfacesOnly :=
      ← s.read "check_interfaces_in_binding" Toml.flag? d.boundInterfacesOnly }

def deviationNames : List String :=
  ["subcomponent_path_name_only", "reboot_status_subcomponents_unsupported",
    "fabric_reboot_unsupported"]

def deviations? (v : Toml) : Option Deviations := do
  let s ← Section.ofToml? deviationNames v
  let d : Deviations := {}
  return {
    pathNameOnly := ← s.read "subcomponent_path_name_only" Toml.flag? d.pathNameOnly
    statusWithoutPaths :=
      ← s.read "reboot_status_subcomponents_unsupported" Toml.flag? d.statusWithoutPaths
    fabricRebootUnsupported :=
      ← s.read "fabric_reboot_unsupported" Toml.flag? d.fabricRebootUnsupported }

def timingNames : List String :=
  ["state_poll_interval_secs", "controller_settle_secs", "linecard_settle_secs",
    "controller_boot_secs", "linecard_boot_secs", "fabric_boot_secs",
    "linecard_interface_recovery_secs", "fabric_interface_recovery_secs"]

def timing? (v : Toml) : Option Timing := do
  let s ← Section.ofToml? timingNames v
  if !s.hasOnly timingNames then none
  let d : Timing := {}
  return {
    pollInterval := ← s.read "state_poll_interval_secs" seconds? d.pollInterval
    controllerSettle := ← s.read "controller_settle_secs" seconds? d.controllerSettle
    linecardSettle := ← s.read "linecard_settle_secs" seconds? d.linecardSettle
    controllerBoot := ← s.read "controller_boot_secs" seconds? d.controllerBoot
    linecardBoot := ← s.read "linecard_boot_secs" seconds? d.linecardBoot
    fabricBoot := ← s.read "fabric_boot_secs" seconds? d.fabricBoot
    linecardRecovery :=
      ← s.read "linecard_interface_recovery_secs" seconds? d.linecardRecovery
    fabricRecovery := ← s.read "fabric_interface_recovery_secs" seconds? d.fabricRecovery }

def trafficNames : List String :=
  ["sample_interval_secs", "iterations", "start_command", "stop_command"]

def traffic? (v : Toml) : Option TrafficPlan := do
  let s ← Section.ofToml? trafficNames v
  let d : TrafficPlan := {}
  return {
    sampleInterval := ← s.read "sample_interval_secs" seconds? d.sampleInterval
    samples := ← s.read "iterations" samples? d.samples
    startCommand := ← s.read "start_command" someText? d.startCommand
    stopCommand := ← s.read "stop_command" someText? d.stopCommand }

/-- The configuration that a document holds. -/
def ofToml? (document : Toml) : Option Configuration := do
  let s ← Section.ofToml? [] document
  return {
    vendor := ← s.read "vendor" vendor? .other
    target := ← s.read "target" target? {}
    topology := ← s.read "topology" topology? {}
    deviations := ← s.read "deviations" deviations? {}
    timing := ← s.read "timing" timing? {}
    traffic := ← s.read "traffic" traffic? {} }

/-- The setting that a text is blamed on as a whole. -/
def documentField : String := "toml"

/-- Reads and checks a configuration. -/
def parse (text : String) : Outcome Configuration :=
  match Toml.read? text with
  | none => .error (.invalidConfiguration documentField "the text is no TOML document")
  | some document =>
      match ofToml? document with
      | none =>
          .error (.invalidConfiguration documentField "the document does not fit the settings")
      | some c => do
          c.check
          return c

end Configuration

/-- Why a configuration file could not be read. -/
inductive FileFault
  | missing
  | directory
  | notText
  deriving DecidableEq, Repr

def FileFault.message : FileFault → String
  | .missing => "No such file or directory (os error 2)"
  | .directory => "Is a directory (os error 21)"
  | .notText => "stream did not contain valid UTF-8"

/-- Reads a configuration from what a file of this name was found to be. -/
def Configuration.ofFile (name : String) : Except FileFault Text.Octets → Outcome Configuration
  | .error fault => .error (.invalidConfiguration name fault.message)
  | .ok octets =>
      match Text.decode? octets with
      | some text => Configuration.parse (String.ofList text)
      | none => .error (.invalidConfiguration name FileFault.notText.message)

end CardReboot
