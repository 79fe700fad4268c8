import CardReboot.Text.Octets
import CardReboot.Text.Positional

/-!
# Signals

A signal has a number, and most have a name.  A shell ends by all of them but a
few.
-/

namespace CardReboot.Shell

open Text

/-- The signals with a name that end a shell. -/
def deadlySignals : List (String × Nat) :=
  [("HUP", 1), ("INT", 2), ("QUIT", 3), ("ILL", 4), ("TRAP", 5), ("ABRT", 6), ("BUS", 7),
    ("FPE", 8), ("KILL", 9), ("USR1", 10), ("SEGV", 11), ("USR2", 12), ("PIPE", 13),
    ("ALRM", 14), ("TERM", 15), ("STKFLT", 16), ("XCPU", 24), ("XFSZ", 25), ("VTALRM", 26),
    ("PROF", 27), ("POLL", 29), ("PWR", 30), ("SYS", 31)]

/-- The signals with a name that a shell goes on after. -/
def harmlessSignals : List (String × Nat) :=
  [("EXIT", 0), ("CHLD", 17), ("CONT", 18), ("URG", 23), ("WINCH", 28)]

/-- The number of the signal with a name or a number. -/
def signalOf? (text : List Char) : Option Nat :=
  if !text.isEmpty && text.all isAsciiDigit then
    if numeral 10 text < 65 then some (numeral 10 text) else none
  else (deadlySignals ++ harmlessSignals).lookup (String.ofList (text.map Char.toUpper))

def isDeadly (signal : Nat) : Bool :=
  deadlySignals.any (fun pair => pair.2 == signal) || 32 ≤ signal

/-- The complaint about an option, which is one octet. -/
def illegalOption (c : Char) : String :=
  "Illegal option -" ++ String.ofList (repair ((encodeChar c).take 1))

def killUsage : String :=
  "Usage: kill [-s sigspec | -signum | -sigspec] [pid | job]... or\nkill -l [exitstatus]"

/-- What `kill` is asked for: a signal and the numbers of processes.  An error is
the complaint about the arguments. -/
def killRequest : List (List Char) → Except String (Nat × List (List Char))
  | ['-', 's'] :: name :: numbers =>
      match signalOf? name with
      | some signal => .ok (signal, numbers)
      | none => .error ("invalid signal number or name: " ++ String.ofList name)
  | ('-' :: name) :: numbers =>
      match signalOf? name, name with
      | some signal, _ => .ok (signal, numbers)
      | none, [] | none, ['-'] => .ok (15, numbers)
      | none, c :: _ => .error (illegalOption c)
  | numbers => .ok (15, numbers)

end CardReboot.Shell
