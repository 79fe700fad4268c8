/-!
# Numbers in sixty-four binary digits

A magnitude is a whole number of at most fifty-three binary digits times a
power of two.  A quotient of natural numbers is rounded to the nearest
magnitude, a tie to the even one, and what is too large has none.  Products,
quotients and sums are those of the exact numbers, rounded once.
-/

namespace CardReboot

/-- The number `significand * 2 ^ (exponent - 1074)`.  The significand has
fifty-three binary digits unless the exponent is zero, where it may have
fewer. -/
structure Magnitude where
  significand : Nat
  exponent : Nat
  deriving DecidableEq, Repr

namespace Magnitude

def zero : Magnitude := ⟨0, 0⟩

def significandLimit : Nat := Nat.pow 2 53

/-- The largest exponent: beyond it a number is infinite. -/
def exponentLimit : Nat := 2045

/-- The numerator over the denominator `2 ^ 1074`. -/
def scaled (x : Magnitude) : Nat := x.significand * Nat.pow 2 x.exponent

def denominator : Nat := Nat.pow 2 1074

/-- The quotient rounded to the nearest whole number, a tie to the even one. -/
def divideEven (numerator divisor : Nat) : Nat :=
  let quotient := numerator / divisor
  let twice := 2 * (numerator % divisor)
  if twice < divisor then quotient
  else if divisor < twice then quotient + 1
  else quotient + quotient % 2

/-- The least exponent at which the quotient, read in units of
`2 ^ (exponent - 1074)`, stays below `2 ^ 53` before it is rounded. -/
def exponentFor (numerator divisor : Nat) : Nat :=
  let units := numerator * denominator / divisor
  if units < significandLimit then 0 else units.log2 - 52

/-- Rounds `numerator / divisor` to the nearest magnitude. -/
def round? (numerator divisor : Nat) : Option Magnitude :=
  let exponent := exponentFor numerator divisor
  let significand := divideEven (numerator * denominator) (divisor * Nat.pow 2 exponent)
  let rounded : Magnitude :=
    if significand = significandLimit then ⟨significandLimit / 2, exponent + 1⟩
    else ⟨significand, exponent⟩
  if rounded.exponent ≤ exponentLimit then some rounded else none

def ofNat? (n : Nat) : Option Magnitude := round? n 1

def multiply? (x y : Magnitude) : Option Magnitude :=
  round? (x.scaled * y.scaled) (denominator * denominator)

def divide? (x y : Magnitude) : Option Magnitude := round? x.scaled y.scaled

def add? (x y : Magnitude) : Option Magnitude :=
  round? (x.scaled + y.scaled) denominator

end Magnitude

end CardReboot
