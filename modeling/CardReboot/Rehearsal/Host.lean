import CardReboot.Host
import CardReboot.Shell.Execution
import CardReboot.Tool.Command

/-!
# The rehearsed host

The tools that reach the device answer from a list of results, in the order in
which they are started.  Every other command is run by the shell of the host.  The
texts of all commands are kept.
-/

namespace CardReboot

structure RehearsedHost where
  results : List ProcessResult := []
  ran : Array String := #[]
  shell : String → Answered ProcessResult := Shell.execute

namespace RehearsedHost

/-- The result of a tool when no result is left for it. -/
def noResult : ProcessResult := ⟨1, "", "no scripted response"⟩

/-- Whether a command starts one of the tools. -/
def startsTool (command : String) : Bool :=
  [Tool.rebootTool, Tool.stateTool, Tool.consoleTool].any fun tool =>
    (tool.toList ++ [' ']).isPrefixOf command.toList

/-- A result as the caller sees it: the error stream lost the blanks at its two
ends. -/
def seen (r : ProcessResult) : ProcessResult :=
  { r with error := String.ofList (Text.trim r.error.toList) }

def run (command : String) (h : RehearsedHost) : Answered ProcessResult × RehearsedHost :=
  let h := { h with ran := h.ran.push command }
  if Shell.isPassable command && startsTool command then
    match h.results with
    | result :: rest => (.ok (seen result), { h with results := rest })
    | [] => (.ok noResult, h)
  else (h.shell command, h)

def reply : (q : HostRequest) → RehearsedHost → q.Answer × RehearsedHost
  | .run command, h => run command h
  | .pause _, h => ((), h)

def responder : Responder host RehearsedHost := ⟨reply⟩

/-- The commands run since the log was last taken. -/
def takeLog (h : RehearsedHost) : List String × RehearsedHost :=
  (h.ran.toList, { h with ran := #[] })

end RehearsedHost

end CardReboot
