import CardReboot.Rehearsal.Device
import CardReboot.Text.Quoted

/-!
# Checks on a call log

What a rehearsed device was asked for is compared with what it should have been
asked for.
-/

namespace CardReboot

/-- Why a check on a call log failed. -/
inductive CallFault
  | rebootNotIssued (component : String) (rebooted : List String)
  | unexpectedReboot (component : String)
  | commandNotExecuted (expected : String) (commands : List String)
  | unexpectedCommand (pattern : String)
  | countMismatch (what : String) (expected actual : Nat)
  deriving DecidableEq, Repr

namespace CallFault

def message : CallFault → String
  | .rebootNotIssued component rebooted =>
      "Expected a reboot of '" ++ component ++ "', got " ++ quotedList rebooted
  | .unexpectedReboot component => "Unexpected reboot of '" ++ component ++ "'"
  | .commandNotExecuted expected commands =>
      "Expected command containing '" ++ expected ++ "', got " ++ quotedList commands
  | .unexpectedCommand pattern => "Command containing '" ++ pattern ++ "' was executed"
  | .countMismatch what expected actual =>
      "Expected " ++ expected.repr ++ " " ++ what ++ ", found " ++ actual.repr

end CallFault

namespace CallLog

variable (log : CallLog)

def rebooted : List String := log.reboots.toList.map RebootTarget.component

def checkRebooted (component : String) : Except CallFault Unit :=
  if log.rebooted.contains component then .ok ()
  else .error (.rebootNotIssued component log.rebooted)

def checkNotRebooted (component : String) : Except CallFault Unit :=
  if log.rebooted.contains component then .error (.unexpectedReboot component) else .ok ()

def checkCount (what : String) (expected actual : Nat) : Except CallFault Unit :=
  if actual = expected then .ok () else .error (.countMismatch what expected actual)

def checkRebootCount (expected : Nat) : Except CallFault Unit :=
  checkCount "reboot requests" expected log.reboots.size

def checkStatusQueryCount (expected : Nat) : Except CallFault Unit :=
  checkCount "status queries" expected log.statusRequests.size

def checkCommandCount (expected : Nat) : Except CallFault Unit :=
  checkCount "commands" expected log.commands.size

/-- Whether some command contains the text. -/
def ranCommandWith (text : String) : Bool := log.commands.any fun c => mentions c text

def checkCommand (expected : String) : Except CallFault Unit :=
  if log.ranCommandWith expected then .ok ()
  else .error (.commandNotExecuted expected log.commands.toList)

def checkNoCommand (pattern : String) : Except CallFault Unit :=
  if log.ranCommandWith pattern then .error (.unexpectedCommand pattern) else .ok ()

end CallLog

end CardReboot
