import CardReboot.Text.CharSet

/-!
# Positional notation

Digits in any base up to sixteen.  From ten on the digits are letters, large or
small.  The value of digits behind others is what the theorem `numeral_append`
says.
-/

namespace CardReboot.Text

/-- The value of a digit in base sixteen. -/
def hexValue? (c : Char) : Option Nat :=
  if isAsciiDigit c then some (digitValue c)
  else if 'a'.toNat ≤ c.toNat ∧ c.toNat ≤ 'f'.toNat then some (c.toNat - 'a'.toNat + 10)
  else if 'A'.toNat ≤ c.toNat ∧ c.toNat ≤ 'F'.toNat then some (c.toNat - 'A'.toNat + 10)
  else none

def isDigitOf (base : Nat) (c : Char) : Bool := (hexValue? c).any (· < base)

/-- The number that the digits before `n` and these digits are. -/
def numeralFrom (base n : Nat) (digits : List Char) : Nat :=
  digits.foldl (fun n c => n * base + (hexValue? c).getD 0) n

/-- The number that digits are. -/
def numeral (base : Nat) (digits : List Char) : Nat := numeralFrom base 0 digits

theorem numeral_append (base : Nat) (first second : List Char) :
    numeral base (first ++ second) = numeralFrom base (numeral base first) second :=
  List.foldl_append

/-- A sign, if there is one, and the rest. -/
def splitSign : List Char → Bool × List Char
  | '+' :: rest => (false, rest)
  | '-' :: rest => (true, rest)
  | text => (false, text)

end CardReboot.Text
