import CardReboot.Bench
import CardReboot.Rehearsal.Card

/-!
# The rehearsed device

A rehearsed device answers every request from scripts and queues and keeps a log
of the requests.  Each script advances by its own reads alone.  Answers to status
queries and to commands are handed out in turn, each once; after them a status
query finds no reboot going on, or a device that does not know the query, and a
command prints the same text every time.
-/

namespace CardReboot

namespace SampleTable

def header : String := "DEV TRAPCODE NAME                        COUNT      RATE"

def quietRow : String := "  0       12 arp-reply                     100         0\n"

/-- A table without drops, behind some preamble. -/
def clean : String :=
  "SENT: Ukern command: show cda trapstats\n\n" ++ header ++ "\n" ++ quietRow ++
    "  0       13 ttl-exceeded                   50         0\n"

def dropping : String :=
  header ++ "\n" ++ quietRow ++ "  0       13 ttl-exceeded                   50         3\n"

/-- The last row is cut off. -/
def truncated : String := header ++ "\n" ++ quietRow ++ "  0       13\n"

end SampleTable

/-- The requests of each kind so far, in order. -/
structure CallLog where
  reboots : Array RebootTarget := #[]
  statusRequests : Array StatusRequest := #[]
  commands : Array String := #[]
  componentReads : Array String := #[]
  counterReads : Array String := #[]
  deriving DecidableEq, Repr

structure RehearsedDevice where
  cards : List RehearsedCard := []
  statusAnswers : List (Answered RebootStatus) := []
  statusUnimplemented : Bool := false
  /-- The reason for which every reboot is refused. -/
  refusal : Option String := none
  interfaces : ScriptTable InterfaceStatus := []
  counters : ScriptTable Nat := []
  commandAnswers : List (Answered CommandOutput) := []
  defaultOutput : CommandOutput := {}
  calls : CallLog := {}

namespace RehearsedDevice

variable (d : RehearsedDevice)

def reboot (target : RebootTarget) : Answered Unit × RehearsedDevice :=
  let answer :=
    match d.refusal with
    | some reason => .error (.rejected "Reboot" reason)
    | none => .ok ()
  (answer, { d with calls.reboots := d.calls.reboots.push target })

def rebootStatus (request : StatusRequest) : Answered RebootStatus × RehearsedDevice :=
  let d := { d with calls.statusRequests := d.calls.statusRequests.push request }
  match d.statusAnswers with
  | answer :: rest => (answer, { d with statusAnswers := rest })
  | [] =>
      if d.statusUnimplemented then
        (.error (.unimplemented "RebootStatus" "unknown method RebootStatus"), d)
      else (.ok .finished, d)

def componentNames (type : ComponentType) : List String :=
  (d.cards.filter fun c => c.type == type).map RehearsedCard.name

/-- Reads the first card of this name. -/
def readCard (name : String) : List RehearsedCard → Option ComponentState × List RehearsedCard
  | [] => (none, [])
  | card :: rest =>
      if card.name = name then
        (some (card.states.read.1.getD {}), { card with states := card.states.read.2 } :: rest)
      else ((readCard name rest).1, card :: (readCard name rest).2)

def componentState (name : String) : Answered ComponentState × RehearsedDevice :=
  let (found, cards) := readCard name d.cards
  let answer :=
    match found with
    | some state => .ok state
    | none => .error (.transport "Get" ("no component " ++ name))
  (answer, { d with cards := cards, calls.componentReads := d.calls.componentReads.push name })

/-- An interface that is not there reads as not present. -/
def interfaceStatus (name : String) : Answered InterfaceStatus × RehearsedDevice :=
  let (found, interfaces) := ScriptTable.read name d.interfaces
  (.ok (found.getD .notPresent), { d with interfaces := interfaces })

def ingressPackets (name : String) : Answered Nat × RehearsedDevice :=
  let (found, counters) := ScriptTable.read name d.counters
  let answer :=
    match found with
    | some n => .ok n
    | none => .error (.decode name "in-pkts not reported")
  (answer, { d with
    counters := counters, calls.counterReads := d.calls.counterReads.push name })

def console (command : String) : Answered CommandOutput × RehearsedDevice :=
  let d := { d with calls.commands := d.calls.commands.push command }
  match d.commandAnswers with
  | answer :: rest => (answer, { d with commandAnswers := rest })
  | [] => (.ok d.defaultOutput, d)

/-- A chassis with two cards of each type and two ports, all up. -/
def modularChassis : RehearsedDevice where
  cards := [.controllerCard "RE0" .primary, .controllerCard "RE1" .secondary,
    .linecard "FPC0", .linecard "FPC1", .fabric "SIB0", .fabric "SIB1"]
  interfaces := [("et-0/0/0", .constant .up), ("et-1/0/0", .constant .up)]
  defaultOutput := .ok SampleTable.clean

/-- A device with one controller card, one port and nothing to take out. -/
def fixedChassis : RehearsedDevice where
  cards := [.controllerCard "RE0" .primary]
  interfaces := [("et-0/0/0", .constant .up)]

end RehearsedDevice

/-- A traffic generator that only counts, and fails to start or to stop when it
is told to. -/
structure RehearsedGenerator where
  failsToStart : Bool := false
  failsToStop : Bool := false
  starts : Nat := 0
  stops : Nat := 0
  deriving DecidableEq, Repr

namespace RehearsedGenerator

def unreachable (rpc : String) : DeviceError := .transport rpc "generator unreachable"

def start (g : RehearsedGenerator) : Answered Unit × RehearsedGenerator :=
  (if g.failsToStart then .error (unreachable "StartTraffic") else .ok (),
    { g with starts := g.starts + 1 })

def stop (g : RehearsedGenerator) : Answered Unit × RehearsedGenerator :=
  (if g.failsToStop then .error (unreachable "StopTraffic") else .ok (),
    { g with stops := g.stops + 1 })

end RehearsedGenerator

end CardReboot
