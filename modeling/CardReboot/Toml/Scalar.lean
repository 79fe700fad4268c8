import CardReboot.Number.Binary64
import CardReboot.Text.Positional
import CardReboot.Toml.Document

/-!
# TOML numbers and dates

A whole number has no zero before its first digit, unless it is written in base
sixteen, eight or two behind a mark and without a sign.  Single underscores may
stand between digits.  A fraction that would be infinite is refused, and so are
days and times that no calendar and no clock has.
-/

namespace CardReboot.TomlReader

open Text

/-- The digits of a text without the underscores between them; there has to be
a digit on both sides of each. -/
def ungroup? (isMember : Char → Bool) : Bool → List Char → Option (List Char)
  | behindDigit, [] => if behindDigit then some [] else none
  | behindDigit, c :: rest =>
      if c = '_' then
        if behindDigit then ungroup? isMember false rest else none
      else if isMember c then (ungroup? isMember true rest).map (c :: ·)
      else none

def digits? (text : List Char) : Option (List Char) := ungroup? isAsciiDigit false text

/-- The digits of a whole number in base ten. -/
def wholeDigits? (text : List Char) : Option (List Char) :=
  (digits? text).filter fun digits => digits.length == 1 || digits.head? != some '0'

def inRange (n : Int) : Option Toml :=
  if -(Nat.pow 2 127 : Int) ≤ n ∧ n < (Nat.pow 2 128 : Int) then some (.integer n) else none

def integer? : List Char → Option Toml
  | '0' :: 'x' :: rest => do inRange (numeral 16 (← ungroup? (isDigitOf 16) false rest))
  | '0' :: 'o' :: rest => do inRange (numeral 8 (← ungroup? (isDigitOf 8) false rest))
  | '0' :: 'b' :: rest => do inRange (numeral 2 (← ungroup? (isDigitOf 2) false rest))
  | text => do
      let (negative, rest) := splitSign text
      let n := numeral 10 (← wholeDigits? rest)
      inRange (if negative then -(n : Int) else n)

/-- Whether `significand * 10 ^ power` is below infinity. -/
def isFinite (significand : Nat) (power : Int) : Bool :=
  let places := (Nat.toDigits 10 significand).length + power
  if significand = 0 || places < -400 then true
  else if 400 < places then false
  else if 0 ≤ power then (Magnitude.round? (significand * Nat.pow 10 power.toNat) 1).isSome
  else (Magnitude.round? significand (Nat.pow 10 (-power).toNat)).isSome

def isExponentMark (c : Char) : Bool := c == 'e' || c == 'E'

/-- The power of ten behind its mark; zero without a mark. -/
def exponent? : List Char → Option Int
  | [] => some 0
  | _ :: text => do
      let (negative, rest) := splitSign text
      let n := numeral 10 (← digits? rest)
      some (if negative then -(n : Int) else n)

def fraction? (text : List Char) : Option Toml := do
  let (_, text) := splitSign text
  if text = ['i', 'n', 'f'] ∨ text = ['n', 'a', 'n'] then return .fraction
  let mantissa := text.takeWhile (!isExponentMark ·)
  let power := text.dropWhile (!isExponentMark ·)
  let whole ← wholeDigits? (mantissa.takeWhile (· != '.'))
  let places ←
    match mantissa.dropWhile (· != '.') with
    | [] => if power.isEmpty then none else some []
    | _ :: places => digits? places
  let exponent ← exponent? power
  if isFinite (numeral 10 (whole ++ places)) (exponent - places.length) then
    return .fraction
  else none

def isLeapYear (year : Nat) : Bool :=
  year % 4 == 0 && (year % 100 != 0 || year % 400 == 0)

def daysIn (year month : Nat) : Nat :=
  if month = 2 then if isLeapYear year then 29 else 28
  else if month = 4 ∨ month = 6 ∨ month = 9 ∨ month = 11 then 30
  else 31

/-- The value of a text of digits with this length. -/
def fixedNumber? (length : Nat) (text : List Char) : Option Nat :=
  if text.length = length ∧ text.all isAsciiDigit then some (numeral 10 text) else none

def isDate (text : List Char) : Bool :=
  match fixedNumber? 4 (text.take 4), fixedNumber? 2 ((text.drop 5).take 2),
      fixedNumber? 2 (text.drop 8) with
  | some year, some month, some day =>
      text[4]? == some '-' && text[7]? == some '-' &&
        1 ≤ month && month ≤ 12 && 1 ≤ day && day ≤ daysIn year month
  | _, _, _ => false

/-- Whether the text is two numbers below their limits with a colon between. -/
def isHourMinute (text : List Char) : Bool :=
  match fixedNumber? 2 (text.take 2), fixedNumber? 2 (text.drop 3) with
  | some hour, some minute => text[2]? == some ':' && hour ≤ 23 && minute ≤ 59
  | _, _ => false

def isTime (text : List Char) : Bool :=
  let whole := text.takeWhile (· != '.')
  let places := text.dropWhile (· != '.')
  let second :=
    match fixedNumber? 2 (whole.drop 6) with
    | some second => whole[5]? == some ':' && second ≤ 60
    | none => false
  let fraction :=
    match places with
    | [] => true
    | _ :: digits => !digits.isEmpty && digits.all isAsciiDigit
  isHourMinute (whole.take 5) && second && fraction

/-- Whether the text is a time, with an offset or without. -/
def isTimeWithOffset (text : List Char) : Bool :=
  let time := text.takeWhile fun c => isAsciiDigit c || c == ':' || c == '.'
  let offset := text.drop time.length
  isTime time &&
    match offset with
    | [] => true
    | ['Z'] | ['z'] => true
    | sign :: rest => (sign == '+' || sign == '-') && isHourMinute rest

def isDateMark (c : Char) : Bool := c == 'T' || c == 't' || c == ' '

def date? (text : List Char) : Option Toml :=
  let afterDate :=
    match text.drop 10 with
    | [] => true
    | mark :: rest => isDateMark mark && isTimeWithOffset rest
  if isDate (text.take 10) && afterDate || isTime text then some .date else none

/-- The value of a text without quotes and brackets. -/
def scalar? (text : List Char) : Option Toml :=
  if text = "true".toList then some (.boolean true)
  else if text = "false".toList then some (.boolean false)
  else (integer? text).orElse fun _ => (fraction? text).orElse fun _ => date? text

end CardReboot.TomlReader
