import CardReboot.Component
import CardReboot.Rehearsal.Script

/-!
# Rehearsed cards

A card of a rehearsed chassis has a name, a type, and a script for what its
state reads as.
-/

namespace CardReboot

structure RehearsedCard where
  name : String
  type : ComponentType
  states : AnswerScript ComponentState
  deriving DecidableEq, Repr

namespace RehearsedCard

def ofState (name : String) (type : ComponentType) (state : ComponentState) : RehearsedCard :=
  ⟨name, type, .constant state⟩

/-- What the first read of the card shows. -/
def firstState (card : RehearsedCard) : ComponentState := card.states.first?.getD {}

/-- An active controller card with a role. -/
def controllerCard (name : String) (role : RedundantRole) : RehearsedCard :=
  ofState name .controllerCard
    { removable := some true, role := some role, status := some .active }

/-- An active line card. -/
def linecard (name : String) : RehearsedCard :=
  ofState name .linecard
    { removable := some true, empty := some false, status := some .active }

/-- A slot for a line card with none in it. -/
def emptySlot (name : String) : RehearsedCard :=
  ofState name .linecard { removable := some true, empty := some true }

/-- An active fabric card. -/
def fabric (name : String) : RehearsedCard :=
  ofState name .fabric { removable := some true, status := some .active }

/-- The card as it reads first, but for ever without a removable flag. -/
def withoutRemovable (card : RehearsedCard) : RehearsedCard :=
  { card with states := .constant { card.firstState with removable := none } }

/-- The card as it reads first, then `during` for so many reads, then `after`. -/
def rebooting (card : RehearsedCard) (reads : Nat) (during after : ComponentState) :
    RehearsedCard :=
  { card with states := ⟨card.firstState :: List.replicate reads during ++ [after]⟩ }

end RehearsedCard

end CardReboot
