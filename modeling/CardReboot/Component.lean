import CardReboot.Text.Basic
import CardReboot.Time

/-!
# The cards of a chassis

A component is a card of one of three types.  What a device says about a card
is read leaf by leaf, and a leaf that it does not report stays unknown: it
never counts as a plain no.
-/

namespace CardReboot

inductive ComponentType
  | controllerCard
  | linecard
  | fabric
  deriving DecidableEq, Repr

namespace ComponentType

def name : ComponentType → String
  | .controllerCard => "CONTROLLER_CARD"
  | .linecard => "LINECARD"
  | .fabric => "FABRIC"

/-- Reads the identity after its last colon. -/
def parse (text : String) : Except String ComponentType :=
  match identityPart text with
  | "CONTROLLER_CARD" => .ok .controllerCard
  | "LINECARD" => .ok .linecard
  | "FABRIC" => .ok .fabric
  | other => .error ("unknown component type: " ++ other)

end ComponentType

/-- The part a controller card plays in a redundant pair. -/
inductive RedundantRole
  | primary
  | secondary
  | unknown
  deriving DecidableEq, Repr

namespace RedundantRole

def name : RedundantRole → String
  | .primary => "PRIMARY"
  | .secondary => "SECONDARY"
  | .unknown => "UNKNOWN"

/-- Reads the identity after its last colon; any other text is an unknown role. -/
def parse (text : String) : RedundantRole :=
  match identityPart text with
  | "PRIMARY" => .primary
  | "SECONDARY" => .secondary
  | _ => .unknown

end RedundantRole

/-- The operational status of a card. -/
inductive ComponentStatus
  | active
  | inactive
  | disabled
  deriving DecidableEq, Repr

namespace ComponentStatus

def name : ComponentStatus → String
  | .active => "ACTIVE"
  | .inactive => "INACTIVE"
  | .disabled => "DISABLED"

def parse (text : String) : Except String ComponentStatus :=
  match identityPart text with
  | "ACTIVE" => .ok .active
  | "INACTIVE" => .ok .inactive
  | "DISABLED" => .ok .disabled
  | other => .error ("unknown component oper-status: " ++ other)

def parse? (text : String) : Option ComponentStatus :=
  match parse text with
  | .ok status => some status
  | .error _ => none

end ComponentStatus

/-- The leaves of a card's state, each unknown unless the device reports it. -/
structure ComponentState where
  removable : Option Bool := none
  empty : Option Bool := none
  role : Option RedundantRole := none
  status : Option ComponentStatus := none
  deriving DecidableEq, Repr

namespace ComponentState

/-- How a leaf is shown in a message. -/
def leafText {α : Type} (shown : α → String) : Option α → String
  | none => "None"
  | some a => "Some(" ++ shown a ++ ")"

private def flagText (b : Bool) : String := if b then "true" else "false"

private def roleText : RedundantRole → String
  | .primary => "Primary"
  | .secondary => "Secondary"
  | .unknown => "Unknown"

private def statusText : ComponentStatus → String
  | .active => "Active"
  | .inactive => "Inactive"
  | .disabled => "Disabled"

/-- All four leaves in one line. -/
def text (s : ComponentState) : String :=
  "ComponentState \x7b removable: " ++ leafText flagText s.removable ++
    ", empty: " ++ leafText flagText s.empty ++
    ", redundant_role: " ++ leafText roleText s.role ++
    ", oper_status: " ++ leafText statusText s.status ++ " \x7d"

end ComponentState

/-- One entry of an inventory. -/
structure ComponentDescriptor where
  name : String
  type : ComponentType
  removable : Option Bool := none
  empty : Option Bool := none
  role : Option RedundantRole := none
  deriving DecidableEq, Repr

namespace ComponentDescriptor

def ofState (name : String) (type : ComponentType) (state : ComponentState) :
    ComponentDescriptor :=
  ⟨name, type, state.removable, state.empty, state.role⟩

/-- Only a card that is reported removable is one. -/
def isRemovable (c : ComponentDescriptor) : Bool := c.removable == some true

/-- Only a slot that is reported empty is one. -/
def isEmptySlot (c : ComponentDescriptor) : Bool := c.empty == some true

end ComponentDescriptor

/-- The operational status of an interface. -/
inductive InterfaceStatus
  | up
  | down
  | testing
  | unknown
  | dormant
  | notPresent
  | lowerLayerDown
  deriving DecidableEq, Repr

namespace InterfaceStatus

def name : InterfaceStatus → String
  | .up => "UP"
  | .down => "DOWN"
  | .testing => "TESTING"
  | .unknown => "UNKNOWN"
  | .dormant => "DORMANT"
  | .notPresent => "NOT_PRESENT"
  | .lowerLayerDown => "LOWER_LAYER_DOWN"

/-- Reads the whole text; any other text is an unknown status. -/
def parse : String → InterfaceStatus
  | "UP" => .up
  | "DOWN" => .down
  | "TESTING" => .testing
  | "DORMANT" => .dormant
  | "NOT_PRESENT" => .notPresent
  | "LOWER_LAYER_DOWN" => .lowerLayerDown
  | _ => .unknown

end InterfaceStatus

/-- What a console command printed.  A text in `error` means that the device
refused the command or failed it. -/
structure CommandOutput where
  output : String := ""
  error : String := ""
  deriving DecidableEq, Repr

namespace CommandOutput

def ok (output : String) : CommandOutput := ⟨output, ""⟩

def failed (error : String) : CommandOutput := ⟨"", error⟩

def isError (c : CommandOutput) : Bool := c.error != ""

end CommandOutput

end CardReboot
