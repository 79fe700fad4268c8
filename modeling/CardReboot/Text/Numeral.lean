import CardReboot.Text.CharSet

/-!
# Numbers written in decimal

A number is read from ASCII digits, after a plus sign or without one, and has
to stay below the limit of its field.  Reading goes from the left and stops at
the first character that is no digit or that makes the number too large, so
the first of several faults is the one reported.
-/

namespace CardReboot

inductive NumeralError
  | empty
  | invalidDigit
  | tooLarge
  deriving DecidableEq, Repr

def NumeralError.message : NumeralError → String
  | .empty => "cannot parse integer from empty string"
  | .invalidDigit => "invalid digit found in string"
  | .tooLarge => "number too large to fit in target type"

namespace Numeral

/-- Appends the digits of a text to the number `value`, below `limit`. -/
def appendDigits (limit : Nat) : Nat → List Char → Except NumeralError Nat
  | value, [] => .ok value
  | value, c :: rest =>
      if Text.isAsciiDigit c then
        if value * 10 + Text.digitValue c < limit then
          appendDigits limit (value * 10 + Text.digitValue c) rest
        else .error .tooLarge
      else .error .invalidDigit

/-- Reads a number below `limit`. -/
def read (limit : Nat) : List Char → Except NumeralError Nat
  | [] => .error .empty
  | '+' :: [] => .error .invalidDigit
  | '+' :: rest => appendDigits limit 0 rest
  | text => appendDigits limit 0 text

def word32 : Nat := Nat.pow 2 32

def word64 : Nat := Nat.pow 2 64

/-- Reads an integer, negative ones after a minus sign, from `low` to below
`limit`. -/
def readInteger? (low : Int) (limit : Nat) : List Char → Option Int
  | '-' :: c :: rest =>
      match appendDigits ((-low).toNat + 1) 0 (c :: rest) with
      | .ok n => some (-(n : Int))
      | .error _ => none
  | text =>
      match read limit text with
      | .ok n => some n
      | .error _ => none

end Numeral

end CardReboot
