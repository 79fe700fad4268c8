import CardReboot.Text.CharSet

/-!
# Streams and what they are tied to

A stream is named by one digit.  Redirecting it ties it to a file, or to what
another open stream is tied to, or closes it.  Files are not kept: what is
written to one is lost, and the only one that can be read is the empty one.
-/

namespace CardReboot.Shell

open Text

/-- What a stream is tied to. -/
inductive Sink
  | output
  | error
  | nowhere
  /-- What is only read from. -/
  | input
  deriving DecidableEq, Repr

/-- What the open streams are tied to. -/
structure Channels where
  sinks : List (Char × Sink) := [('0', .input), ('1', .output), ('2', .error)]
  deriving DecidableEq, Repr

/-- Why a stream cannot be redirected. -/
inductive RedirectionFault
  | noStream
  | notOpen (stream : Char)
  | noFile (name : String)
  deriving DecidableEq, Repr

def RedirectionFault.message : RedirectionFault → String
  | noStream => "Syntax error: Bad fd number"
  | notOpen stream => String.singleton stream ++ ": Bad file descriptor"
  | noFile name => "cannot open " ++ name ++ ": No such file"

namespace Channels

def sink? (c : Channels) (stream : Char) : Option Sink := c.sinks.lookup stream

def close (c : Channels) (stream : Char) : Channels :=
  ⟨c.sinks.filter fun pair => pair.1 != stream⟩

def tie (c : Channels) (stream : Char) (sink : Sink) : Channels :=
  ⟨(stream, sink) :: (c.close stream).sinks⟩

/-- What a stream is tied to when it is redirected to a file. -/
def fileSink (c : Channels) (reading : Bool) (name : String) :
    Except RedirectionFault Sink :=
  if name = "/dev/stdout" then (c.sink? '1').elim (.error (.noFile name)) .ok
  else if name = "/dev/stderr" then (c.sink? '2').elim (.error (.noFile name)) .ok
  else if !reading || name = "/dev/null" then .ok .nowhere
  else .error (.noFile name)

/-- Redirects a stream to what a target names. -/
def redirect (c : Channels) (stream : Char) (toStream : Bool) (target : List Char) :
    Except RedirectionFault Channels :=
  if !toStream then (c.fileSink (stream = '0') (String.ofList target)).map (c.tie stream)
  else match target with
    | ['-'] => .ok (c.close stream)
    | [name] =>
        if !isAsciiDigit name then .error .noStream
        else match c.sink? name with
          | some sink => .ok (c.tie stream sink)
          | none => .error (.notOpen name)
    | _ => .error .noStream

end Channels

end CardReboot.Shell
