import CardReboot.Shell.Format
import CardReboot.Shell.Session
import CardReboot.Shell.Signal

/-!
# Commands of the shell

The commands known here print, set the exit status or end the shell.
-/

namespace CardReboot.Shell

open Text

/-- The number that an argument is, for commands that take no greater one than
31 bits hold. -/
def smallNumber? (argument : List Char) : Option Nat :=
  let (negative, text) := splitSign (argument.dropWhile isSpace)
  let digits := text.takeWhile isAsciiDigit
  let n := numeral 10 digits
  if digits.isEmpty || !(text.drop digits.length).all isSpace then none
  else if n ≥ Nat.pow 2 31 || (negative && n ≠ 0) then none
  else some n

/-- Runs `exit` with its arguments. -/
def runExit (setting : Setting) (arguments : List (List Char)) (s : Session) : Session :=
  match arguments with
  | [] => s.leave
  | argument :: _ =>
      match smallNumber? argument with
      | some n => (s.withStatus (n % 256)).leave
      | none =>
          ((s.complain setting ("exit: Illegal number: " ++ String.ofList argument)).withStatus
            2).leave

/-- Sends a signal to one process after another. -/
def sendSignal (setting : Setting) (signal : Nat) : List (List Char) → Session → Session
  | [], s => s
  | number :: rest, s =>
      match smallNumber? number with
      | none =>
          (s.complain setting ("kill: Illegal number: " ++ String.ofList number)).withStatus 2
      | some n =>
          if n ≠ ownNumber then
            sendSignal setting signal rest
              ((s.complain setting "kill: No such process\n").withStatus 1)
          else if isDeadly signal then { s with ending := some .killed }
          else sendSignal setting signal rest s

/-- Runs `kill` with its arguments. -/
def runKill (setting : Setting) (arguments : List (List Char)) (s : Session) : Session :=
  match killRequest arguments with
  | .error complaint => (s.complain setting ("kill: " ++ complaint)).withStatus 2
  | .ok (_, []) => (s.complain setting ("kill: " ++ killUsage)).withStatus 2
  | .ok (signal, numbers) => sendSignal setting signal numbers (s.withStatus 0)

/-- The complaint about a format, if it could not be gone through. -/
def Halt.complaint? : Halt → Option String
  | stopped => none
  | missingConversion => some "missing format character"
  | unknownConversion directive => some (String.ofList directive ++ ": invalid directive")

/-- Prints what a format and its arguments are.  What the command complains of
comes before what it prints. -/
def printFormat (setting : Setting) (text : List Char) (arguments : List (List Char))
    (s : Session) : Session :=
  let f := format text arguments
  let complaint := f.halt.bind Halt.complaint?
  let complaints := f.warnings.map Warning.message ++ complaint.toList
  let complained := complaints.foldl (fun s m => s.complain setting ("printf: " ++ m)) s
  let s := complained.print setting "printf" f.octets
  if complaint.isSome then s.withStatus 2
  else if f.warnings.isEmpty then s
  else s.withStatus 1

/-- Runs `printf` with its arguments. -/
def runPrintf (setting : Setting) (arguments : List (List Char)) (s : Session) : Session :=
  match arguments with
  | [] | [['-', '-']] =>
      (s.complain setting "printf: usage: printf format [arg ...]").withStatus 2
  | ['-', '-'] :: text :: arguments => printFormat setting text arguments s
  | ('-' :: c :: _) :: _ =>
      (s.complain setting ("printf: " ++ illegalOption c)).withStatus 2
  | text :: arguments => printFormat setting text arguments s

/-- Whether a command is so special that the shell ends when its streams cannot
be redirected. -/
def isSpecial (name : List Char) : Bool := name == [':'] || name == "exit".toList

/-- Runs one command. -/
def runCommand (setting : Setting) (words : List (List Char)) (s : Session) : Session :=
  match words with
  | [] => s.withStatus 0
  | name :: arguments =>
      match String.ofList name with
      | "true" | ":" => s.withStatus 0
      | "false" => s.withStatus 1
      | "echo" => s.print setting "echo" (echo arguments)
      | "printf" => runPrintf setting arguments s
      | "exit" => runExit setting arguments s
      | "kill" => runKill setting arguments s
      | "" => (s.complain setting ": Permission denied").withStatus 127
      | name => (s.complain setting (name ++ ": not found")).withStatus 127

end CardReboot.Shell
