import CardReboot.Failure
import CardReboot.Text.CharSet

/-!
# Ports and the line cards that carry them

A port is named by its media type, a hyphen, and the numbers of the line card,
of the slot on it and of the port, with slashes between them; a channel may
follow after a colon.  The line card of a port is the one that bears its number.
-/

namespace CardReboot

structure Port where
  media : List Char
  card : List Char
  slot : List Char
  port : List Char
  channel : Option (List Char)
  deriving DecidableEq, Repr

namespace Port

open Text

def isMediaLetter (c : Char) : Bool := 'a'.toNat ≤ c.toNat && c.toNat ≤ 'z'.toNat

/-- Takes the characters of a class at the start of the text, at least one. -/
def run? (isMember : Char → Bool) (text : List Char) : Option (List Char × List Char) :=
  if (text.takeWhile isMember).isEmpty then none
  else some (text.takeWhile isMember, text.dropWhile isMember)

def mark? (mark : Char) : List Char → Option (List Char)
  | [] => none
  | c :: rest => if c = mark then some rest else none

def channel? : List Char → Option (Option (List Char))
  | [] => some none
  | text => do
      let text ← mark? ':' text
      let (channel, rest) ← run? isDigit text
      if rest.isEmpty then some (some channel) else none

def parse? (text : List Char) : Option Port := do
  let (media, text) ← run? isMediaLetter text
  let text ← mark? '-' text
  let (card, text) ← run? isDigit text
  let text ← mark? '/' text
  let (slot, text) ← run? isDigit text
  let text ← mark? '/' text
  let (port, text) ← run? isDigit text
  let channel ← channel? text
  return ⟨media, card, slot, port, channel⟩

/-- The name of the line card that carries the port. -/
def linecardName (p : Port) : String := "FPC" ++ String.ofList p.card

/-- The name of the line card that carries the port with this name. -/
def linecardOf (name : String) : Outcome String :=
  match parse? name.toList with
  | some port => .ok port.linecardName
  | none => .error (.invalidPortName name)

end Port

end CardReboot
