import CardReboot.Dialogue
import CardReboot.Rehearsal.Script

/-!
# Rehearsed reads

A source that can only be read, and gives a value or an error each time, as a
script says.
-/

namespace CardReboot

inductive ReadRequest
  | read
  | pause (d : Duration)
  deriving DecidableEq, Repr

/-- A source of values that is read again and again. -/
def readings (α : Type) : Interface where
  Question := ReadRequest
  Answer
    | .read => Except String α
    | .pause _ => Unit

instance {α : Type} : Pausing (readings α) :=
  ⟨fun d => Dialogue.question (I := readings α) (.pause d)⟩

def readOnce {α : Type} : Dialogue (readings α) (Except String α) :=
  Dialogue.question (I := readings α) .read

/-- A scripted source, and how often it was read. -/
structure RehearsedReads (α : Type) where
  script : AnswerScript (Except String α)
  /-- What an empty script reads as. -/
  otherwise : α
  count : Nat := 0

namespace RehearsedReads

variable {α : Type}

def reply : (q : (readings α).Question) → RehearsedReads α →
    (readings α).Answer q × RehearsedReads α
  | .read, r =>
      (r.script.read.1.getD (.ok r.otherwise),
        { r with script := r.script.read.2, count := r.count + 1 })
  | .pause _, r => ((), r)

def responder : Responder (readings α) (RehearsedReads α) := ⟨reply⟩

end RehearsedReads

end CardReboot
