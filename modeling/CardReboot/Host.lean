import CardReboot.Dialogue
import CardReboot.Failure

/-!
# The host that the tools run on

The host runs commands through its shell.  A command that cannot be started is a
device error; one that ends with another exit code than zero is not, because
what that means depends on the tool.

A process ends with an exit code and with what it wrote to its two streams.  Zero
means success, and a process that a signal ended has the code `-1`.  A complaint is
looked for in both streams together.
-/

namespace CardReboot

structure ProcessResult where
  exitCode : Int
  output : String
  error : String
  deriving DecidableEq, Repr

namespace ProcessResult

def succeeded (r : ProcessResult) : Bool := r.exitCode == 0

/-- Both streams, on lines of their own when neither is empty. -/
def combined (r : ProcessResult) : String :=
  if r.error = "" then r.output
  else if r.output = "" then r.error
  else r.output ++ "\n" ++ r.error

/-- The output of the command, or the error that its failure is. -/
def checked (command : String) (r : ProcessResult) : Answered String :=
  if r.succeeded then .ok r.output
  else .error (.shellCommandFailed command r.exitCode r.combined)

end ProcessResult

/-- What can be asked of the host. -/
inductive HostRequest
  | run (command : String)
  | pause (d : Duration)
  deriving DecidableEq, Repr

namespace HostRequest

def Answer : HostRequest → Type
  | run _ => Answered ProcessResult
  | pause _ => Unit

end HostRequest

def host : Interface := ⟨HostRequest, HostRequest.Answer⟩

instance : Pausing host := ⟨fun d => Dialogue.question (I := host) (.pause d)⟩

namespace Host

def run (command : String) : Dialogue host (Answered ProcessResult) :=
  Dialogue.question (I := host) (.run command)

/-- Runs a command that has to succeed. -/
def runChecked (command : String) : Dialogue host (Answered String) := do
  match ← run command with
  | .error e => return .error e
  | .ok result => return result.checked command

end Host

end CardReboot
