/-!
# Declared numbers of cards

The operator may declare how many cards of a type there are.  A negative number
declares nothing.
-/

namespace CardReboot

structure ExpectedCount where
  value : Int
  deriving DecidableEq, Repr

namespace ExpectedCount

def undeclared : ExpectedCount := ⟨-1⟩

def declared? (e : ExpectedCount) : Option Nat :=
  if 0 ≤ e.value then some e.value.toNat else none

/-- Whether at least one card is declared, as on a modular chassis. -/
def isPositive (e : ExpectedCount) : Bool := 0 < e.value

/-- Whether there are more cards than declared; always so when nothing is. -/
def isExceededBy (e : ExpectedCount) (count : Nat) : Bool :=
  match e.declared? with
  | some declared => declared < count
  | none => true

end ExpectedCount

end CardReboot
