import CardReboot.Failure
import CardReboot.Text.Lower

/-!
# Cases and their reports

There is one case for each type of card.  A report says how a case ended and
how long it took, in one line that begins with the verdict.
-/

namespace CardReboot

inductive RebootCase
  | standbyController
  | linecard
  | fabric
  deriving DecidableEq, Repr

namespace RebootCase

/-- All cases in the order in which they run. -/
def all : List RebootCase := [.standbyController, .linecard, .fabric]

def name : RebootCase → String
  | .standbyController => "standby-controller-card"
  | .linecard => "linecard"
  | .fabric => "fabric"

/-- Reads the name of a case, or a short form of it, in small or capital
letters. -/
def parse (text : String) : Except String RebootCase :=
  match String.ofList (Text.lowerAscii text.toList) with
  | "standby-controller-card" | "controller" | "controller-card" => .ok .standbyController
  | "linecard" | "line-card" => .ok .linecard
  | "fabric" => .ok .fabric
  | _ =>
      .error ("unknown reboot case '" ++ text ++
        "', expected one of: standby-controller-card, linecard, fabric")

end RebootCase

/-- How a case ended. -/
inductive Verdict
  | passed
  | skipped (reason : String)
  | failed (failure : Failure)

def Verdict.isFailed : Verdict → Bool
  | .failed _ => true
  | _ => false

structure CaseReport where
  case : RebootCase
  verdict : Verdict
  elapsed : Duration

namespace CaseReport

/-- The line of the report, with `time` for how long the case took. -/
def lineWith (r : CaseReport) (time : String) : String :=
  match r.verdict with
  | .passed => "PASS " ++ r.case.name ++ " (" ++ time ++ ")"
  | .skipped reason => "SKIP " ++ r.case.name ++ " (" ++ time ++ "): " ++ reason
  | .failed failure => "FAIL " ++ r.case.name ++ " (" ++ time ++ "): " ++ failure.message

def line (r : CaseReport) : String := r.lineWith (r.elapsed.tenths ++ "s")

end CaseReport

end CardReboot
