import CardReboot.Failure
import CardReboot.Json.Reader
import CardReboot.Text.CharSet
import CardReboot.Text.Numeral

/-!
# Answers to a status query

The answer is an object, or the first item of a list.  In a response envelope
the flag is left out when it is false; without an envelope it has to be there.
Waiting time, reason and count are taken where they have the right shape.
-/

namespace CardReboot.Tool

/-- What an answer that cannot be read is called in a message. -/
def statusLabel : String := "reboot-status"

def unreadableStatus (reason : String) : DeviceError := .decode statusLabel reason

/-- The status that an object reports, with the flag already found. -/
def statusOf (active : Bool) (report : Json) : RebootStatus where
  active := active
  wait := ((report.member? "wait").bind Json.nat?).map Duration.mk
  reason := ((report.member? "reason").bind Json.string?).filter (· != "")
  count := ((report.member? "count").bind Json.nat?).filter (· < Numeral.word32)

def activeFlag? (report : Json) : Option Bool := (report.member? "active").bind Json.bool?

/-- The status in one answer. -/
def statusOfAnswer (answer : Json) : Answered RebootStatus :=
  match (answer.member? "response").filter Json.isObject with
  | some response => .ok (statusOf ((activeFlag? response).getD false) response)
  | none =>
      match activeFlag? answer with
      | some active => .ok (statusOf active answer)
      | none => .error (unreadableStatus "no active flag in response")

/-- The status in an answer or in the first of several. -/
def statusOfJson : Json → Answered RebootStatus
  | .array [] => .error (unreadableStatus "empty response")
  | .array (first :: _) => statusOfAnswer first
  | answer => statusOfAnswer answer

/-- Reads the output of a status query. -/
def decodeStatus (output : String) : Answered RebootStatus :=
  match Json.parse (Text.trim output.toList) with
  | .ok value => statusOfJson value
  | .error reason => .error (unreadableStatus reason)

end CardReboot.Tool
