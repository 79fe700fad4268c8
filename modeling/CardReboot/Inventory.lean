import CardReboot.Bench
import CardReboot.Selection

/-!
# Reading an inventory

The inventory of a type is read by asking for the names of its cards and then
for the state of each, in the order of the names.  The first request that fails
ends the reading.
-/

namespace CardReboot.Inventory

/-- Reads the state of each card in turn. -/
def readStates (type : ComponentType) : List String → Dialogue bench (Outcome Inventory)
  | [] => return .ok []
  | name :: rest => do
      match ← Bench.componentState name with
      | .error e => return .error (.during ("read state of " ++ name) e)
      | .ok state =>
          match ← readStates type rest with
          | .error failure => return .error failure
          | .ok others => return .ok (.ofState name type state :: others)

/-- Reads the cards of one type with their states. -/
def fetch (type : ComponentType) : Dialogue bench (Outcome Inventory) := do
  match ← Bench.componentNames type with
  | .error e => return .error (.during ("list " ++ type.name ++ " components") e)
  | .ok names => readStates type names

end CardReboot.Inventory
