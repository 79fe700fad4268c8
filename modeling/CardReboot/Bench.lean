import CardReboot.Dialogue
import CardReboot.Failure

/-!
# The test bench

The bench holds the device under test, its console, and a traffic generator
that may be absent.  Every request can fail with a device error; a pause cannot.
-/

namespace CardReboot

/-- What can be asked of the bench. -/
inductive BenchRequest
  | reboot (target : RebootTarget)
  | rebootStatus (request : StatusRequest)
  | componentNames (type : ComponentType)
  | componentState (name : String)
  | interfaceNames
  | interfaceStatus (name : String)
  | ingressPackets (interface : String)
  | console (command : String)
  | startTraffic
  | stopTraffic
  | pause (d : Duration)
  deriving DecidableEq, Repr

namespace BenchRequest

def Answer : BenchRequest → Type
  | reboot _ => Answered Unit
  | rebootStatus _ => Answered RebootStatus
  | componentNames _ => Answered (List String)
  | componentState _ => Answered ComponentState
  | interfaceNames => Answered (List String)
  | interfaceStatus _ => Answered InterfaceStatus
  | ingressPackets _ => Answered Nat
  | console _ => Answered CommandOutput
  | startTraffic => Answered Unit
  | stopTraffic => Answered Unit
  | pause _ => Unit

end BenchRequest

def bench : Interface := ⟨BenchRequest, BenchRequest.Answer⟩

instance : Pausing bench := ⟨fun d => Dialogue.question (I := bench) (.pause d)⟩

namespace Bench

/-- One request to the device or the generator, and its answer. -/
def reboot (target : RebootTarget) : Dialogue bench (Answered Unit) :=
  Dialogue.question (I := bench) (.reboot target)

def rebootStatus (request : StatusRequest) : Dialogue bench (Answered RebootStatus) :=
  Dialogue.question (I := bench) (.rebootStatus request)

def componentNames (type : ComponentType) : Dialogue bench (Answered (List String)) :=
  Dialogue.question (I := bench) (.componentNames type)

def componentState (name : String) : Dialogue bench (Answered ComponentState) :=
  Dialogue.question (I := bench) (.componentState name)

def interfaceNames : Dialogue bench (Answered (List String)) :=
  Dialogue.question (I := bench) .interfaceNames

def interfaceStatus (name : String) : Dialogue bench (Answered InterfaceStatus) :=
  Dialogue.question (I := bench) (.interfaceStatus name)

def ingressPackets (interface : String) : Dialogue bench (Answered Nat) :=
  Dialogue.question (I := bench) (.ingressPackets interface)

def console (command : String) : Dialogue bench (Answered CommandOutput) :=
  Dialogue.question (I := bench) (.console command)

def startTraffic : Dialogue bench (Answered Unit) :=
  Dialogue.question (I := bench) .startTraffic

def stopTraffic : Dialogue bench (Answered Unit) :=
  Dialogue.question (I := bench) .stopTraffic

end Bench

end CardReboot
