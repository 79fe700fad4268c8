import CardReboot.Shell.Channels
import CardReboot.Shell.Token
import CardReboot.Text.Octets

/-!
# Sessions of a shell

What a shell has done is seen in its two streams and in the exit status of its
last command alone.  A shell complains with its name and the line of the command
that the complaint is about.
-/

namespace CardReboot.Shell

open Text

/-- How a shell came to its end before the end of its script. -/
inductive Ending
  | left
  | killed
  deriving DecidableEq, Repr

/-- What a shell has printed so far, the status of its last command, and how it
ended, if it did. -/
structure Session where
  output : Octets := []
  error : Octets := []
  status : Nat := 0
  ending : Option Ending := none
  deriving DecidableEq, Repr

/-- Where a command runs: the line it stands on and its streams. -/
structure Setting where
  line : Nat := 1
  channels : Channels := {}
  deriving DecidableEq, Repr

namespace Session

def withStatus (s : Session) (status : Nat) : Session := { s with status := status }

def leave (s : Session) : Session := { s with ending := some .left }

/-- The session around a subshell after it: only the subshell was left. -/
def rejoin (s : Session) : Session :=
  if s.ending = some .left then { s with ending := none } else s

def write (s : Session) (sink : Option Sink) (octets : Octets) : Session :=
  match sink with
  | some .output => { s with output := s.output ++ octets }
  | some .error => { s with error := s.error ++ octets }
  | _ => s

/-- A complaint of the shell. -/
def complain (s : Session) (setting : Setting) (complaint : String) : Session :=
  let line := "/bin/sh: " ++ toString setting.line ++ ": " ++ complaint ++ "\n"
  s.write (setting.channels.sink? '2') (encode line.toList)

/-- A command prints and succeeds, unless nothing can be written to its output. -/
def print (s : Session) (setting : Setting) (name : String) (octets : Octets) : Session :=
  match setting.channels.sink? '1' with
  | none | some .input =>
      if octets.isEmpty then s.withStatus 0
      else (s.complain setting (name ++ ": " ++ name ++ ": I/O error")).withStatus 1
  | sink => (s.write sink octets).withStatus 0

end Session

/-- The number of the process that the shell is. -/
def ownNumber : Nat := 1

/-- The text that a piece of a word stands for.  What is not known expands to
nothing. -/
def Piece.expand (status : Nat) : Piece → List Char
  | plain c => [c]
  | quoted c => [c]
  | exitStatus => Nat.toDigits 10 status
  | processNumber => Nat.toDigits 10 ownNumber
  | expansion _ => []

/-- The text that a word stands for. -/
def Word.expand (status : Nat) (w : Word) : List Char := w.flatMap (Piece.expand status)

/-- Whether nothing is left of a word: it is one or more expansions outside
quotes, and they are all empty. -/
def Word.vanishes (w : Word) : Bool := !w.isEmpty && w.all (· == .expansion false)

/-- The texts of the words of a command. -/
def expandAll (status : Nat) (words : List Word) : List (List Char) :=
  (words.filter fun w => !w.vanishes).map (Word.expand status)

end CardReboot.Shell
