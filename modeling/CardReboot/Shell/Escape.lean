import CardReboot.Text.Octets
import CardReboot.Text.Positional

/-!
# Escapes in printed texts

A backslash and what follows it stand for one octet.  Escapes are carried out on
the way to octets, so that a text may print octets that are no characters.  An
argument knows one escape more than a format: the one that ends all printing.
-/

namespace CardReboot.Shell

open Text

/-- The octal digits at the start, at most `limit` of them. -/
def octalDigits (limit : Nat) (text : List Char) : List Char :=
  (text.take limit).takeWhile (isDigitOf 8)

def octalOctet (digits : List Char) : UInt8 :=
  UInt8.ofNat (numeral 8 digits % 256)

/-- The octet of an escape with one letter. -/
def letterOctet? (c : Char) : Option UInt8 :=
  [('\\', 92), ('a', 7), ('b', 8), ('e', 27), ('f', 12), ('n', 10), ('r', 13), ('t', 9),
    ('v', 11)].lookup c

/-- Octets, and whether nothing may be printed after them. -/
structure Printed where
  octets : Octets := []
  stopped : Bool := false
  deriving DecidableEq, Repr

/-- Octets before others. -/
def Printed.before (octets : Octets) (p : Printed) : Printed :=
  { p with octets := octets ++ p.octets }

/-- Carries the escapes of a format or of an argument out.  In an argument a
zero before three octal digits does not count as one of them. -/
def unescape (inArgument : Bool) : List Char → Printed
  | [] => {}
  | [c] => ⟨encodeChar c, false⟩
  | c :: d :: rest =>
      if c ≠ '\\' then (unescape inArgument (d :: rest)).before (encodeChar c)
      else match letterOctet? d with
        | some octet => (unescape inArgument rest).before [octet]
        | none =>
            if inArgument ∧ d = 'c' then ⟨[], true⟩
            else if inArgument ∧ d = '0' then
              let digits := octalDigits 3 rest
              (unescape inArgument (rest.drop digits.length)).before [octalOctet digits]
            else if isDigitOf 8 d then
              let digits := octalDigits 2 rest
              (unescape inArgument (rest.drop digits.length)).before
                [octalOctet (d :: digits)]
            else (unescape inArgument (d :: rest)).before [92]
termination_by text => text.length
decreasing_by all_goals (simp only [List.length_cons, List.length_drop]; omega)

/-- What the command `echo` prints for its arguments. -/
def echo (arguments : List (List Char)) : Octets :=
  let line (arguments : List (List Char)) (ending : Octets) : Octets :=
    let printed := unescape true ((arguments.intersperse [' ']).flatten)
    if printed.stopped then printed.octets else printed.octets ++ ending
  match arguments with
  | ['-', 'n'] :: rest => line rest []
  | arguments => line arguments [10]

end CardReboot.Shell
