import CardReboot.Text.CharSet
import CardReboot.Text.Word

/-!
# The columns of a trap table row

A row holds a device number, a trap code, a name, a count and a rate, set apart
by blanks.  Names may contain blanks and words that are numbers, so where a name
ends is a choice: the longest name wins that leaves a count and a rate after it.
Only when no name starts after the whole gap behind the trap code may the name
take blanks of that gap for itself.
-/

namespace CardReboot.TrapTable

open Text

/-- The texts of the five columns, as they stand in the row. -/
structure Columns where
  device : List Char
  trapCode : List Char
  name : List Char
  count : List Char
  rate : List Char
  deriving DecidableEq, Repr

def isNameCharacter (c : Char) : Bool :=
  isWordCharacter c || c == '.' || c == '-' || isBlank c

/-- Takes all the digits at the start of the text, at least one. -/
def digits? (text : List Char) : Option (List Char × List Char) :=
  if (text.takeWhile isDigit).isEmpty then none
  else some (text.takeWhile isDigit, text.dropWhile isDigit)

/-- Skips all the blanks at the start of the text, at least one. -/
def gap? : List Char → Option (List Char)
  | [] => none
  | c :: rest => if isBlank c then some (rest.dropWhile isBlank) else none

/-- Takes a gap, the count, a gap and the rate; what follows the rate is left
out of sight. -/
def countAndRate? (text : List Char) : Option (List Char × List Char) := do
  let text ← gap? text
  let (count, text) ← digits? text
  let text ← gap? text
  let (rate, _) ← digits? text
  some (count, rate)

/-- Takes the longest name that a count and a rate follow. -/
def nameThenNumbers? : List Char → Option (List Char × List Char × List Char)
  | [] => none
  | c :: rest =>
      if isNameCharacter c then
        match nameThenNumbers? rest with
        | some (name, numbers) => some (c :: name, numbers)
        | none => (countAndRate? rest).map fun numbers => ([c], numbers)
      else none

/-- Takes the longest gap that a name, a count and a rate follow. -/
def gapThenName? : List Char → Option (List Char × List Char × List Char)
  | [] => none
  | c :: rest =>
      if isBlank c then
        match gapThenName? rest with
        | some found => some found
        | none => nameThenNumbers? rest
      else none

/-- Splits a row into its columns. -/
def columns? (line : List Char) : Option Columns := do
  let (device, text) ← digits? (line.dropWhile isBlank)
  let text ← gap? text
  let (trapCode, text) ← digits? text
  let (name, count, rate) ← gapThenName? text
  some ⟨device, trapCode, name, count, rate⟩

end CardReboot.TrapTable
