import CardReboot.Rehearsal.Device
import CardReboot.Rehearsal.Host
import CardReboot.Tool.Device

/-!
# The rehearsed bench

A rehearsal puts a device, a generator and a host together.  The device is a
rehearsed one or one that the tools of the host reach, and the generator is a
rehearsed one or a pair of commands on the host.
-/

namespace CardReboot

inductive RehearsalDevice
  | rehearsed (device : RehearsedDevice)
  | remote (target : Target)

inductive RehearsalGenerator
  | missing
  | rehearsed (generator : RehearsedGenerator)
  | commands (plan : TrafficPlan)

structure Rehearsal where
  device : RehearsalDevice
  generator : RehearsalGenerator := .missing
  host : RehearsedHost := {}

namespace Rehearsal

variable {α : Type}

/-- Whether there is a generator to start. -/
def hasGenerator (r : Rehearsal) : Bool :=
  match r.generator with
  | .missing => false
  | .rehearsed _ => true
  | .commands plan => Tool.hasGenerator plan

/-- Asks the rehearsed device, or carries the request out on the host. -/
def onDevice (onRehearsed : RehearsedDevice → α × RehearsedDevice)
    (onHost : Target → Dialogue CardReboot.host α) (r : Rehearsal) : α × Rehearsal :=
  match r.device with
  | .rehearsed d =>
      let (answer, d) := onRehearsed d
      (answer, { r with device := .rehearsed d })
  | .remote t =>
      let (answer, h) := (onHost t).run RehearsedHost.responder r.host
      (answer, { r with host := h })

def startTraffic (r : Rehearsal) : Answered Unit × Rehearsal :=
  match r.generator with
  | .missing => (.ok (), r)
  | .rehearsed g =>
      let (answer, g) := g.start
      (answer, { r with generator := .rehearsed g })
  | .commands plan =>
      let (answer, h) := (Tool.runTraffic plan.startCommand).run RehearsedHost.responder r.host
      (answer, { r with host := h })

def stopTraffic (r : Rehearsal) : Answered Unit × Rehearsal :=
  match r.generator with
  | .missing => (.ok (), r)
  | .rehearsed g =>
      let (answer, g) := g.stop
      (answer, { r with generator := .rehearsed g })
  | .commands plan =>
      let (answer, h) := (Tool.runTraffic plan.stopCommand).run RehearsedHost.responder r.host
      (answer, { r with host := h })

def reply : (q : BenchRequest) → Rehearsal → q.Answer × Rehearsal
  | .reboot target, r => r.onDevice (·.reboot target) (Tool.reboot · target)
  | .rebootStatus request, r => r.onDevice (·.rebootStatus request) (Tool.rebootStatus · request)
  | .componentNames type, r =>
      r.onDevice (fun d => (.ok (d.componentNames type), d)) (Tool.readComponentNames · type)
  | .componentState name, r =>
      r.onDevice (·.componentState name) (Tool.readComponentState · name)
  | .interfaceNames, r =>
      r.onDevice (fun d => (.ok (ScriptTable.names d.interfaces), d)) Tool.readInterfaceNames
  | .interfaceStatus name, r =>
      r.onDevice (·.interfaceStatus name) (Tool.readInterfaceStatus · name)
  | .ingressPackets interface, r =>
      r.onDevice (·.ingressPackets interface) (Tool.readIngressPackets · interface)
  | .console command, r => r.onDevice (·.console command) (Tool.runConsole · command)
  | .startTraffic, r => r.startTraffic
  | .stopTraffic, r => r.stopTraffic
  | .pause _, r => ((), r)

def responder : Responder bench Rehearsal := ⟨reply⟩

/-- The log of the rehearsed device; one behind tools has none. -/
def calls (r : Rehearsal) : CallLog :=
  match r.device with
  | .rehearsed d => d.calls
  | .remote _ => {}

end Rehearsal

end CardReboot
