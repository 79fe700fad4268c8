import CardReboot.Number.Binary64

/-!
# The shortest decimal of a magnitude

A magnitude is written with the fewest digits that read back as it, and among
those with the digits nearest to it.  On the grid of decimals with a given
number of digits only the two neighbours of the magnitude have to be tried:
if any point of the grid reads back, one of them does.
-/

namespace CardReboot

/-- The decimal `digits * 10 ^ exponent`. -/
structure Decimal where
  digits : Nat
  exponent : Int
  deriving DecidableEq, Repr

namespace Magnitude

/-- Four times the magnitude and the two ends of the numbers that round to it,
over four times the denominator. -/
structure Neighbourhood where
  low : Nat
  centre : Nat
  high : Nat
  closed : Bool

def neighbourhood (x : Magnitude) : Neighbourhood :=
  let unit := Nat.pow 2 x.exponent
  let below := if x.significand = significandLimit / 2 ∧ 0 < x.exponent then unit else 2 * unit
  { low := 4 * x.scaled - below
    centre := 4 * x.scaled
    high := 4 * x.scaled + 2 * unit
    closed := x.significand % 2 == 0 }

/-- Whether `point` lies between the ends, which count when they are closed. -/
def Neighbourhood.contains (area : Neighbourhood) (point : Nat) : Bool :=
  if area.closed then area.low ≤ point && point ≤ area.high
  else area.low < point && point < area.high

/-- Tries the grid of multiples of `10 ^ place`, with the denominator
multiplied out so that every number is whole. -/
def Neighbourhood.onGrid? (area : Neighbourhood) (place : Int) : Option Nat :=
  let up := Nat.pow 10 (-place).toNat
  let step := 4 * denominator * Nat.pow 10 place.toNat
  let wide : Neighbourhood :=
    ⟨area.low * up, area.centre * up, area.high * up, area.closed⟩
  let under := wide.centre / step
  let underHit := wide.contains (under * step)
  let overHit := wide.contains ((under + 1) * step)
  let underGap := wide.centre - under * step
  let overGap := (under + 1) * step - wide.centre
  if underHit && overHit then
    if underGap < overGap then some under
    else if overGap < underGap then some (under + 1)
    else some (under + under % 2)
  else if underHit then some under
  else if overHit then some (under + 1)
  else none

/-- The number of decimal digits before the point of `numerator / divisor`,
counted on below zero for zeros after the point. -/
def integerPlaces (numerator divisor : Nat) : Int :=
  if divisor ≤ numerator then ((numerator / divisor).repr.length : Int)
  else 1 - ((divisor - 1) / numerator).repr.length

/-- Tries one digit more until the grid has a point that reads back. -/
def shortestFrom (area : Neighbourhood) (places : Int) : Nat → Nat → Decimal
  | 0, count => ⟨area.centre / (4 * denominator), count⟩
  | tries + 1, count =>
      match area.onGrid? (places - count) with
      | some digits => ⟨digits, places - count⟩
      | none => shortestFrom area places tries (count + 1)

/-- The shortest decimal that reads back as the magnitude. -/
def shortest (x : Magnitude) : Decimal :=
  if x.significand = 0 then ⟨0, 0⟩
  else shortestFrom x.neighbourhood (integerPlaces x.scaled denominator) 17 1

end Magnitude

/-- The digits without the zeros at their end. -/
def Decimal.normalized (d : Decimal) : Decimal :=
  let text := d.digits.repr.toList.reverse
  let zeros := (text.takeWhile (· == '0')).length
  if d.digits = 0 then ⟨0, 0⟩
  else ⟨d.digits / Nat.pow 10 zeros, d.exponent + zeros⟩

end CardReboot
