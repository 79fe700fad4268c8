import CardReboot.Host
import CardReboot.Json.Reader
import CardReboot.Json.Writer
import CardReboot.Shell.Execution

/-!
# Commands over a relay

A relay runs commands on behalf of the program.  Each command goes out as one
line and its result comes back as one line, both of them objects.  What is
missing in a result is zero or empty, and no result at all means that the
command could not be run.
-/

namespace CardReboot.Relay

/-- The line that asks for a command. -/
def requestLine (command : String) : String :=
  (Json.object [("run", .string command)]).text

def exitCode? (j : Json) : Option Int :=
  match j.member? "exit" with
  | some (.number (.natural n)) => some n
  | some (.number (.negative n)) => some (-(n : Int))
  | _ => none

/-- The result in an object. -/
def resultOf (j : Json) : ProcessResult where
  exitCode := (exitCode? j).getD 0
  output := ((j.member? "stdout").bind Json.string?).getD ""
  error := ((j.member? "stderr").bind Json.string?).getD ""

/-- The answer to a command in the line that came back. -/
def answer (command line : String) : Answered ProcessResult :=
  if !Shell.isPassable command then .error (Shell.impassable command)
  else match Json.parse (Text.trim line.toList) with
    | .ok j => .ok (resultOf j)
    | .error reason => .error (.shellExec command reason)

end CardReboot.Relay
