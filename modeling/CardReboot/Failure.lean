import CardReboot.Path
import CardReboot.Text.Numeral

/-!
# What can go wrong

A device error is the answer of a device, or of the tool that talks to it, to
one request.  A failure ends a case; it may be a device error met on the way,
or a finding about the device.  Several failures of one case are kept together
in the order in which they were found.
-/

namespace CardReboot

inductive DeviceError
  /-- The device does not know the request. -/
  | unimplemented (rpc message : String)
  /-- The device refuses the request. -/
  | rejected (rpc reason : String)
  /-- The request or its answer got lost. -/
  | transport (rpc message : String)
  /-- The answer cannot be read. -/
  | decode (path message : String)
  /-- A command could not be started. -/
  | shellExec (command source : String)
  /-- A command ended with another exit code than zero. -/
  | shellCommandFailed (command : String) (exitCode : Int) (output : String)
  deriving DecidableEq, Repr

namespace DeviceError

def message : DeviceError → String
  | .unimplemented rpc message => rpc ++ " is not implemented by the device: " ++ message
  | .rejected rpc reason => rpc ++ " rejected by the device: " ++ reason
  | .transport rpc message => rpc ++ " failed: " ++ message
  | .decode path message => "Failed to decode " ++ path ++ ": " ++ message
  | .shellExec command source =>
      "Failed to execute shell command '" ++ command ++ "': " ++ source
  | .shellCommandFailed command exitCode output =>
      "Shell command failed: '" ++ command ++ "' (exit code " ++ toString exitCode ++
        "): " ++ output

def isUnimplemented : DeviceError → Bool
  | .unimplemented _ _ => true
  | _ => false

/-- Whether the same request may succeed when it is made again. -/
def isRetryable : DeviceError → Bool
  | .transport _ _ => true
  | .shellCommandFailed _ _ _ => true
  | _ => false

end DeviceError

/-- What a request ends with. -/
abbrev Answered (α : Type) := Except DeviceError α

/-- The numbered columns of a trap table. -/
inductive TrapColumn
  | device
  | trapCode
  | count
  | rate
  deriving DecidableEq, Repr

def TrapColumn.name : TrapColumn → String
  | .device => "DEV"
  | .trapCode => "TRAPCODE"
  | .count => "COUNT"
  | .rate => "RATE"

inductive Failure
  | topologyMismatch (type : ComponentType) (expected : Int) (actual : Nat)
  | noRemovableComponent (type : ComponentType)
  | redundancyRoleNotFound (role : RedundantRole)
  | redundancyRoleAmbiguous (role : RedundantRole) (count : Nat)
  | rebootRejected (component reason : String)
  | statusUnimplemented (component : String)
  | timeout (what : String) (limit elapsed : Duration) (lastObserved : String)
  | malformedLine (line : String)
  | invalidNumber (column : TrapColumn) (line : String) (cause : NumeralError)
  | commandFailed (command error : String)
  | nonZeroDropRate (count : Nat) (summary : String)
  | trafficNotFlowing (interface : String) (before after : Nat)
  | invalidPortName (port : String)
  | multiple (failures : List Failure)
  | invalidConfiguration (field message : String)
  | device (operation : String) (source : DeviceError)
  deriving Repr

namespace Failure

mutual

def message : Failure → String
  | .topologyMismatch type expected actual =>
      "Incorrect number of " ++ type.name ++ " components: got " ++ actual.repr ++
        ", want exactly " ++ toString expected
  | .noRemovableComponent type =>
      "No removable " ++ type.name ++ " component found on a modular device"
  | .redundancyRoleNotFound role => "No controller card reports redundant role " ++ role.name
  | .redundancyRoleAmbiguous role count =>
      count.repr ++ " controller cards report redundant role " ++ role.name ++
        ", expected exactly one"
  | .rebootRejected component reason => "Reboot of " ++ component ++ " rejected: " ++ reason
  | .statusUnimplemented component =>
      "RebootStatus for " ++ component ++
        " is unimplemented; the reboot service is not fully compliant"
  | .timeout what limit elapsed lastObserved =>
      what ++ " did not reach target state within " ++ limit.text ++ " (waited " ++
        elapsed.text ++ "): last observed " ++ lastObserved
  | .malformedLine line => "invalid line format: " ++ line
  | .invalidNumber column line cause =>
      "error parsing " ++ column.name ++ " in line '" ++ line ++ "': " ++ cause.message
  | .commandFailed command error =>
      "could not fetch output for: " ++ command ++ ", err: " ++ error
  | .nonZeroDropRate count summary =>
      "found non-zero rate for " ++ count.repr ++ " trap statistic sample(s): " ++ summary
  | .trafficNotFlowing interface before after =>
      "incoming packets on " ++ interface ++ " did not change after traffic was started (" ++
        before.repr ++ " -> " ++ after.repr ++ ")"
  | .invalidPortName port => "invalid port name format: " ++ port
  | .multiple failures =>
      failures.length.repr ++ " checks failed: " ++ "; ".intercalate (messages failures)
  | .invalidConfiguration field message =>
      "Invalid configuration for " ++ field ++ ": " ++ message
  | .device operation source => operation ++ " failed: " ++ source.message

def messages : List Failure → List String
  | [] => []
  | failure :: rest => failure.message :: messages rest

end

/-- One failure for all of them: none for none, the only one itself. -/
def ofList? : List Failure → Option Failure
  | [] => none
  | [failure] => some failure
  | failures => some (.multiple failures)

/-- A device error together with what was being done. -/
def during (operation : String) (e : DeviceError) : Failure := .device operation e

end Failure

/-- What a procedure of a case ends with. -/
abbrev Outcome (α : Type) := Except Failure α

/-! ## Results in sequence -/

section Sequence

variable {ε α β : Type} {result : Except ε α} {f : α → Except ε β}

theorem exists_of_bind_eq_ok {b : β} (hbind : result >>= f = .ok b) :
    ∃ a, result = .ok a ∧ f a = .ok b := by
  cases result with
  | error e => cases hbind
  | ok a => exact ⟨a, rfl, hbind⟩

theorem bind_eq_error_iff {e : ε} :
    result >>= f = .error e ↔ result = .error e ∨ ∃ a, result = .ok a ∧ f a = .error e := by
  cases result with
  | error first =>
      constructor
      · intro hbind
        cases hbind
        exact .inl rfl
      · intro hfound
        obtain hfirst | ⟨a, ha, -⟩ := hfound
        · cases hfirst
          rfl
        · cases ha
  | ok a =>
      constructor
      · intro hbind
        exact .inr ⟨a, rfl, hbind⟩
      · intro hfound
        obtain ha | ⟨b, hb, hrest⟩ := hfound
        · cases ha
        · cases hb
          exact hrest

end Sequence

end CardReboot
