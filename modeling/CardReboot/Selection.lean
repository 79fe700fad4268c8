import CardReboot.ExpectedCount
import CardReboot.Failure

/-!
# Which card to reboot

Selection looks at an inventory and never at the device.  A chassis that cannot
run the case is a reason to skip it; an inventory that contradicts the declared
topology, or controller cards without one clear pair of roles, are failures.
-/

namespace CardReboot

inductive Selection (α : Type)
  | selected (choice : α)
  | skip (reason : String)
  deriving DecidableEq, Repr

/-- The two controller cards of a redundant pair. -/
structure ControllerPair where
  standby : ComponentDescriptor
  active : ComponentDescriptor
  deriving DecidableEq, Repr

abbrev Inventory := List ComponentDescriptor

namespace Inventory

def ofType (inventory : Inventory) (type : ComponentType) : Inventory :=
  inventory.filter fun c => c.type = type

def withRole (inventory : Inventory) (role : RedundantRole) : Inventory :=
  inventory.filter fun c => c.role = some role

/-- The cards that are reported removable; with a pinned name, only those that
bear it. -/
def removable (inventory : Inventory) (pinned : Option String) : Inventory :=
  inventory.filter fun c =>
    (match pinned with
      | some name => c.name == name
      | none => true) && c.isRemovable

/-- Fails when a number is declared and it is not the number of cards. -/
def checkCount (type : ComponentType) (expected : ExpectedCount) (actual : Nat) :
    Outcome Unit :=
  match expected.declared? with
  | some declared =>
      if declared = actual then .ok ()
      else .error (.topologyMismatch type expected.value actual)
  | none => .ok ()

/-- The only card of a role. -/
def theOnly (inventory : Inventory) (role : RedundantRole) : Outcome ComponentDescriptor :=
  match inventory.withRole role with
  | [card] => .ok card
  | [] => .error (.redundancyRoleNotFound role)
  | cards => .error (.redundancyRoleAmbiguous role cards.length)

/-- The standby and the active controller card. -/
def selectControllers (inventory : Inventory) (expected : ExpectedCount) :
    Outcome (Selection ControllerPair) := do
  let cards := inventory.ofType .controllerCard
  checkCount .controllerCard expected cards.length
  if cards.length < 2 then
    return .skip ("Not enough controller cards for the test: got " ++ cards.length.repr ++
      ", want at least 2")
  let standby ← theOnly cards .secondary
  let active ← theOnly cards .primary
  return .selected ⟨standby, active⟩

/-- The first removable card.  Without one the case fails on a chassis declared
modular and is skipped on any other. -/
def pickRemovable (candidates : Inventory) (type : ComponentType)
    (expected : ExpectedCount) (pinned : Option String) :
    Outcome (Selection ComponentDescriptor) :=
  match candidates.removable pinned with
  | card :: _ => .ok (.selected card)
  | [] =>
      if expected.isPositive then .error (.noRemovableComponent type)
      else .ok (.skip ("No removable " ++ type.name ++ " component found for the testing"))

/-- The line cards that take part: slots reported empty are left out when there
are more of them than declared. -/
def presentLinecards (inventory : Inventory) (expected : ExpectedCount) : Inventory :=
  let cards := inventory.ofType .linecard
  if expected.isExceededBy cards.length then cards.filter fun c => !c.isEmptySlot
  else cards

/-- The line card to reboot: the pinned one, if a name is given. -/
def selectLinecard (inventory : Inventory) (expected : ExpectedCount)
    (pinned : Option String) : Outcome (Selection ComponentDescriptor) := do
  let cards := inventory.presentLinecards expected
  checkCount .linecard expected cards.length
  if cards.isEmpty then
    return .skip "Not enough linecards for the test: got 0, want > 0"
  cards.pickRemovable .linecard expected pinned

/-- The fabric card to reboot. -/
def selectFabric (inventory : Inventory) (expected : ExpectedCount) :
    Outcome (Selection ComponentDescriptor) := do
  let cards := inventory.ofType .fabric
  checkCount .fabric expected cards.length
  cards.pickRemovable .fabric expected none

end Inventory

end CardReboot
