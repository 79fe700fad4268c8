import CardReboot.Configuration.Basic
import CardReboot.Path
import CardReboot.Shell.Token

/-!
# Commands that reach the device

Every field that comes from outside stands as one quoted word in its command.
Reboot calls and state queries go through the two remote call tools, console
commands through a secure shell that never asks for a password.
-/

namespace CardReboot.Tool

open Shell

def rebootTool : String := "gnoic"

def stateTool : String := "gnmic"

def consoleTool : String := "/usr/bin/ssh"

/-- The options by which a call finds the device. -/
def connectionOptions (t : Target) : String :=
  "-a " ++ quoteArgument t.address ++ " -u " ++ quoteArgument t.username ++ " -p " ++
    quoteArgument t.password ++ (if t.insecure then " --insecure" else "")

/-- The options that name cards, each after a blank. -/
def subcomponentOptions (paths : List ComponentPath) : String :=
  paths.foldl (fun s p => s ++ " --subcomponent " ++ quoteArgument p.text) ""

def rebootCommand (t : Target) (target : RebootTarget) : String :=
  rebootTool ++ " " ++ connectionOptions t ++ " system reboot --method " ++
    target.method.name ++ subcomponentOptions target.paths

def statusCommand (t : Target) (request : StatusRequest) : String :=
  rebootTool ++ " " ++ connectionOptions t ++ " --format json system reboot-status" ++
    subcomponentOptions request.paths

def getCommand (t : Target) (path : String) : String :=
  stateTool ++ " " ++ connectionOptions t ++ " get --path " ++ quoteArgument path ++
    " --format json"

def consoleCommand (t : Target) (command : String) : String :=
  consoleTool ++ " -o BatchMode=yes " ++ quoteArgument t.username ++ "@" ++
    quoteArgument t.consoleHost ++ " " ++ quoteArgument command

end CardReboot.Tool
