import CardReboot.Bench
import CardReboot.Names
import CardReboot.Wait

/-!
# Which interfaces are up

A snapshot holds the names of the interfaces that were up in one pass over the
interfaces it covers, in the order of the names and each of them once.  After a
reboot every interface that was up before has to be up again; interfaces that
come up on top of that are welcome.
-/

namespace CardReboot

/-- Which interfaces a snapshot covers. -/
inductive InterfaceScope
  | all
  | only (names : List String)
  deriving DecidableEq, Repr

/-- The ports bound to the testbed, or every interface. -/
def InterfaceScope.ofBinding (ports : List String) (bindingOnly : Bool) : InterfaceScope :=
  if bindingOnly then .only ports else .all

/-- The interfaces that are up, in order and each of them once. -/
structure Snapshot where
  up : List String
  ordered : up.Pairwise (· < ·)
  deriving DecidableEq, Repr

namespace Snapshot

def empty : Snapshot := ⟨[], .nil⟩

def insert (s : Snapshot) (name : String) : Snapshot :=
  ⟨insertName name s.up, pairwise_insertName s.ordered⟩

def ofList (names : List String) : Snapshot :=
  ⟨distinctNames names, pairwise_distinctNames names⟩

def isEmpty (s : Snapshot) : Bool := s.up.isEmpty

def size (s : Snapshot) : Nat := s.up.length

/-- The interfaces up here and not in `post`. -/
def missingFrom (pre post : Snapshot) : List String :=
  pre.up.filter fun name => !post.up.contains name

/-- Whether every interface up here is up in `post`. -/
def recoveredIn (pre post : Snapshot) : Bool :=
  pre.up.all fun name => post.up.contains name

/-- Reads the status of each interface in turn. -/
def readAll : List String → Snapshot → Dialogue bench (Answered Snapshot)
  | [], snapshot => return .ok snapshot
  | name :: rest, snapshot => do
      match ← Bench.interfaceStatus name with
      | .error e => return .error e
      | .ok status => readAll rest (if status = .up then snapshot.insert name else snapshot)

/-- Makes one pass over the interfaces in scope. -/
def capture (scope : InterfaceScope) : Dialogue bench (Answered Snapshot) := do
  match scope with
  | .only names => readAll names empty
  | .all =>
      match ← Bench.interfaceNames with
      | .error e => return .error e
      | .ok names => readAll names empty

end Snapshot

/-- The snapshot taken before a reboot. -/
def captureBefore (scope : InterfaceScope) : Dialogue bench (Outcome Snapshot) := do
  match ← Snapshot.capture scope with
  | .error e => return .error (.during "capture interface state" e)
  | .ok snapshot => return .ok snapshot

namespace Recovery

/-- What one pass after the reboot observed. -/
structure Observation where
  missing : List String
  post : Snapshot
  deriving DecidableEq, Repr

def Observation.text (o : Observation) : String :=
  "interfaces not up: [" ++ ", ".intercalate o.missing ++ "]"

/-- One pass, compared with the snapshot from before. -/
def observe (pre : Snapshot) (scope : InterfaceScope) :
    Dialogue bench (Except String Observation) := do
  match ← Snapshot.capture scope with
  | .error e => return .error e.message
  | .ok post => return .ok ⟨pre.missingFrom post, post⟩

/-- Waits until a pass finds every interface of `pre` up.  When none was up
before there is nothing to wait for, and the device is not asked. -/
def await (patience : Nat) (interval limit : Duration) (pre : Snapshot)
    (scope : InterfaceScope) : Timed bench (Outcome Snapshot) := do
  if pre.isEmpty then return .ok .empty
  let wait : Wait := ⟨"interface recovery", interval, limit⟩
  match ← wait.await patience (observe pre scope) (fun o => o.missing.isEmpty)
      Observation.text with
  | .error failure => return .error failure
  | .ok o => return .ok o.post

end Recovery

end CardReboot
