import CardReboot.Json.Basic
import CardReboot.Json.Fault
import CardReboot.Text.CharSet

/-!
# Reading JSON numbers

The digits of a number are gathered in a word of sixty-four bits as long as they
fit; the digits after that only move the point.  With a point or a power of ten
the word is multiplied or divided by that power, each step rounded on its own.
A number without them that fits stays whole.
-/

namespace CardReboot.JsonReader

open Text

abbrev Reading (α : Type) := Except JsonStop (α × List Char)

/-- Reading stopped before the rest of the text. -/
def stopAt {α : Type} (fault : JsonFault) (left : List Char) : Except JsonStop α :=
  .error ⟨fault, left, 0⟩

/-- Reading stopped behind the first octet of the rest. -/
def stopIn {α : Type} (fault : JsonFault) (left : List Char) : Except JsonStop α :=
  .error ⟨fault, left, 1⟩

def wordLimit : Nat := Nat.pow 2 64

/-- The largest power of ten that a number is multiplied or divided by at once. -/
def largestPower : Nat := 308

def powerOfTen (n : Nat) : Magnitude := (Magnitude.ofNat? (Nat.pow 10 n)).getD .zero

/-- The magnitude times a power of ten; nothing when it is too large. -/
def scale : Nat → Magnitude → Int → Option Magnitude
  | 0, _, _ => some .zero
  | steps + 1, m, power =>
      if power.natAbs ≤ largestPower then
        if 0 ≤ power then m.multiply? (powerOfTen power.toNat)
        else m.divide? (powerOfTen power.natAbs)
      else if m.significand = 0 then some m
      else if 0 ≤ power then none
      else do scale steps (← m.divide? (powerOfTen largestPower)) (power + largestPower)

/-- The fraction `word * 10 ^ power`. -/
def fraction (positive : Bool) (word : Nat) (power : Int) (left : List Char) :
    Reading JsonNumber :=
  match (Magnitude.ofNat? word).bind fun m => scale 4 m power with
  | some m => .ok (.fraction (!positive) m, left)
  | none => stopAt .numberOutOfRange left

def skipDigits (text : List Char) : List Char := text.dropWhile isAsciiDigit

/-- The largest power of ten that is read to its end. -/
def powerLimit : Nat := Nat.pow 2 31

/-- Reads the digits of a power of ten and finishes the number. -/
def powerDigits (positive : Bool) (word : Nat) (start : Int) (raised : Bool) :
    Nat → List Char → Reading JsonNumber
  | power, c :: rest =>
      if isAsciiDigit c then
        if power * 10 + digitValue c < powerLimit then
          powerDigits positive word start raised (power * 10 + digitValue c) rest
        else if word ≠ 0 ∧ raised = true then stopAt .numberOutOfRange rest
        else .ok (.fraction (!positive) .zero, skipDigits rest)
      else
        fraction positive word (if raised then start + power else start - power) (c :: rest)
  | power, [] =>
      fraction positive word (if raised then start + power else start - power) []

/-- Reads a power of ten behind its letter. -/
def power (positive : Bool) (word : Nat) (start : Int) (text : List Char) :
    Reading JsonNumber :=
  let (raised, digits) :=
    match text with
    | '+' :: rest => (true, rest)
    | '-' :: rest => (false, rest)
    | _ => (true, text)
  match digits with
  | [] => stopAt .endInValue []
  | c :: rest =>
      if isAsciiDigit c then powerDigits positive word start raised (digitValue c) rest
      else stopIn .invalidNumber (c :: rest)

/-- Finishes a number behind its last digit. -/
def afterFraction (positive : Bool) (word : Nat) (start : Int) (text : List Char) :
    Reading JsonNumber :=
  match text with
  | c :: rest =>
      if c = 'e' ∨ c = 'E' then power positive word start rest
      else fraction positive word start text
  | [] => fraction positive word start []

/-- Reads the digits behind the point; `places` of them were read. -/
def decimals (positive : Bool) (start : Int) : Nat → Nat → List Char → Reading JsonNumber
  | word, places, c :: rest =>
      if isAsciiDigit c then
        if word * 10 + digitValue c < wordLimit then
          decimals positive start (word * 10 + digitValue c) (places + 1) rest
        else afterFraction positive word (start - places) (skipDigits (c :: rest))
      else if places = 0 then stopIn .invalidNumber (c :: rest)
      else afterFraction positive word (start - places) (c :: rest)
  | word, places, [] =>
      if places = 0 then stopAt .endInValue []
      else afterFraction positive word (start - places) []

/-- Reads on where the digits no longer fit the word; each moves the point. -/
def longNumber (positive : Bool) (word : Nat) : Nat → List Char → Reading JsonNumber
  | places, c :: rest =>
      if isAsciiDigit c then longNumber positive word (places + 1) rest
      else if c = '.' then decimals positive places word 0 rest
      else afterFraction positive word places (c :: rest)
  | places, [] => afterFraction positive word places []

/-- The whole number with this sign, or a fraction where no whole number fits:
zero below zero, and what is too far below it. -/
def whole (positive : Bool) (word : Nat) (left : List Char) : Reading JsonNumber :=
  if positive then .ok (.natural word, left)
  else if 0 < word ∧ word ≤ Nat.pow 2 63 then .ok (.negative word, left)
  else fraction false word 0 left

/-- Finishes a number whose digits before the point fit the word. -/
def afterWhole (positive : Bool) (word : Nat) (text : List Char) : Reading JsonNumber :=
  match text with
  | c :: rest =>
      if c = '.' then decimals positive 0 word 0 rest
      else if c = 'e' ∨ c = 'E' then power positive word 0 rest
      else whole positive word text
  | [] => whole positive word []

/-- Reads the digits before the point. -/
def wholeDigits (positive : Bool) : Nat → List Char → Reading JsonNumber
  | word, c :: rest =>
      if isAsciiDigit c then
        if word * 10 + digitValue c < wordLimit then
          wholeDigits positive (word * 10 + digitValue c) rest
        else longNumber positive word 0 (c :: rest)
      else afterWhole positive word (c :: rest)
  | word, [] => afterWhole positive word []

/-- Reads a number behind its sign.  No digit may follow a zero at its start. -/
def number (positive : Bool) : List Char → Reading JsonNumber
  | [] => stopAt .endInValue []
  | '0' :: c :: rest =>
      if isAsciiDigit c then stopIn .invalidNumber (c :: rest)
      else afterWhole positive 0 (c :: rest)
  | c :: rest =>
      if isAsciiDigit c then wholeDigits positive (digitValue c) rest
      else stopIn .invalidNumber (c :: rest)

end CardReboot.JsonReader
