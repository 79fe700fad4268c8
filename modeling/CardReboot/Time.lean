import CardReboot.Number.Notation

/-!
# Lengths of time and readings of the clock

Both are whole numbers of nanoseconds.  The clock counts seconds in a signed
word of sixty-four bits, so an instant that lies further ahead does not exist,
and a wait that would end there has no deadline.
-/

namespace CardReboot

structure Duration where
  nanos : Nat
  deriving DecidableEq, Repr

namespace Duration

def zero : Duration := ⟨0⟩

def nanosPerSecond : Nat := 1000000000

def ofSeconds (n : Nat) : Duration := ⟨n * nanosPerSecond⟩

def ofMillis (n : Nat) : Duration := ⟨n * 1000000⟩

/-- The whole milliseconds in it. -/
def millis (d : Duration) : Nat := d.nanos / 1000000

def min (d e : Duration) : Duration := ⟨Nat.min d.nanos e.nanos⟩

/-- The longest length of time there is: all seconds of an unsigned word. -/
def longest : Duration := ⟨Nat.pow 2 64 * nanosPerSecond - 1⟩

/-- `nanos` in units of `unit` nanoseconds, `places` digits of a fraction wide,
without the zeros at its end. -/
def inUnits (nanos unit places : Nat) (unitName : String) : String :=
  let fraction := (nanos % unit).repr
  let padded := List.replicate (places - fraction.length) '0' ++ fraction.toList
  let kept := (padded.reverse.dropWhile (· == '0')).reverse
  let point := if kept.isEmpty then "" else "."
  (nanos / unit).repr ++ point ++ String.ofList kept ++ unitName

/-- The length in the largest unit of which it holds at least one, with the
exact fraction. -/
def text (d : Duration) : String :=
  if nanosPerSecond ≤ d.nanos then inUnits d.nanos nanosPerSecond 9 "s"
  else if 1000000 ≤ d.nanos then inUnits d.nanos 1000000 6 "ms"
  else if 1000 ≤ d.nanos then inUnits d.nanos 1000 3 "µs"
  else inUnits d.nanos 1 0 "ns"

/-- The seconds and the fraction of one, each rounded to a magnitude, and their
sum rounded again. -/
def seconds? (d : Duration) : Option Magnitude := do
  let whole ← Magnitude.ofNat? (d.nanos / nanosPerSecond)
  let fraction ← Magnitude.round? (d.nanos % nanosPerSecond) nanosPerSecond
  whole.add? fraction

/-- The length in seconds with one digit after the point. -/
def tenths (d : Duration) : String :=
  match d.seconds? with
  | some x => x.tenths
  | none => d.text

end Duration

/-- A reading of the clock. -/
structure Instant where
  nanos : Nat
  deriving DecidableEq, Repr

namespace Instant

/-- The first second that the clock cannot show. -/
def secondLimit : Nat := Nat.pow 2 63

def after (t : Instant) (d : Duration) : Instant := ⟨t.nanos + d.nanos⟩

/-- How long after `start` it is; nothing when it is not later. -/
def since (t start : Instant) : Duration := ⟨t.nanos - start.nanos⟩

/-- The instant when `d` has passed, if the clock can show it. -/
def deadline? (t : Instant) (d : Duration) : Option Instant :=
  if (t.after d).nanos < secondLimit * Duration.nanosPerSecond then some (t.after d)
  else none

end Instant

end CardReboot
