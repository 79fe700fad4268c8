import CardReboot.Number.Shortest

/-!
# How fractions are written

A shortest decimal is written with a point when its first digit stands no
further than sixteen places before the point and no further than five after
it, always with at least one digit on both sides; otherwise with one digit
before the point and the power of ten after an `e`, which carries its sign
even when it is positive.  A length of time in seconds is written with one
digit after the point instead.
-/

namespace CardReboot

/-- From which power of ten of its first digit to which a number is written
with a point only. -/
structure PointRange where
  least : Int
  most : Int

def pointRange : PointRange := ⟨-5, 15⟩

namespace Decimal

def zeros (n : Nat) : String := String.ofList (List.replicate n '0')

/-- The decimal with a point in it and no power of ten. -/
def positional (d : Decimal) : String :=
  let digits := d.digits.repr
  if 0 ≤ d.exponent then digits ++ zeros d.exponent.toNat ++ ".0"
  else
    let places := (-d.exponent).toNat
    let padded := zeros (places + 1 - digits.length) ++ digits
    let whole := padded.toList.take (padded.length - places)
    let fraction := padded.toList.drop (padded.length - places)
    String.ofList whole ++ "." ++ String.ofList fraction

/-- The decimal with one digit before the point and a power of ten. -/
def scientific (d : Decimal) (power : Int) : String :=
  let significand :=
    match d.digits.repr.toList with
    | [] => ""
    | [digit] => String.ofList [digit]
    | digit :: rest => String.ofList (digit :: '.' :: rest)
  significand ++ (if power < 0 then "e-" else "e+") ++ power.natAbs.repr

def text (d : Decimal) : String :=
  let d := d.normalized
  let power := d.exponent + d.digits.repr.length - 1
  if pointRange.least ≤ power ∧ power ≤ pointRange.most then d.positional
  else d.scientific power

end Decimal

namespace Magnitude

/-- The magnitude as its shortest decimal. -/
def text (x : Magnitude) : String := x.shortest.text

/-- The magnitude with one digit after the point: the exact number is rounded,
a tie to the even digit. -/
def tenths (x : Magnitude) : String :=
  let n := divideEven (x.scaled * 10) denominator
  (n / 10).repr ++ "." ++ (n % 10).repr

end Magnitude

end CardReboot
