import CardReboot.CommandLine
import CardReboot.Relay

/-!
# The program

Commands for the host go to a relay: each request is a line on the standard
error stream, and its result is the next line of the standard input.  The
reports are the only lines on the standard output.
-/

namespace CardReboot

/-- The octets of a file, or why they could not be read. -/
def readOctets (name : String) : IO (Except FileFault Text.Octets) := do
  try
    let octets ← IO.FS.readBinFile name
    return .ok octets.toList
  catch e =>
    match e with
    | .noFileOrDirectory .. => return .error .missing
    | _ => return .error .directory

def loadConfiguration (options : Options) : IO (Outcome Configuration) := do
  match options.file with
  | none => return .ok {}
  | some name => return Configuration.ofFile name (← readOctets name)

/-- Answers a question of the host. -/
def answerQuestion : (q : HostRequest) → IO q.Answer
  | .run command => do
      IO.eprintln (Relay.requestLine command)
      let line ← (← IO.getStdin).getLine
      return Relay.answer command line
  | .pause d => IO.sleep (UInt32.ofNat (min d.millis (Nat.pow 2 32 - 1)))

def serve {α : Type} : Dialogue host α → IO α
  | .done value => return value
  | .ask question next => do
      let answer ← answerQuestion question
      serve (next answer)

/-- How many rounds a wait without a deadline may take. -/
def patience : Nat := Nat.pow 2 32

def runOptions (options : Options) : IO ExitStatus := do
  match options.configuration (← loadConfiguration options) with
  | .error failure =>
      IO.eprintln failure.message
      return .failure
  | .ok c =>
      let campaign := c.campaign patience
      match ← serve (campaign.onHost options.selectedCases ⟨0⟩) with
      | none => return .failure
      | some reports =>
          for report in reports do
            IO.println report.line
          return .ofReports reports

def runInvocation : Invocation → IO ExitStatus
  | .run options => runOptions options
  | .version => do
      IO.println versionLine
      return .success
  | .help => do
      IO.println usageLine
      return .success
  | .misuse => return .usage

end CardReboot

def main (arguments : List String) : IO UInt32 := do
  let status ← CardReboot.runInvocation (CardReboot.Invocation.parse arguments)
  return UInt32.ofNat status.code
