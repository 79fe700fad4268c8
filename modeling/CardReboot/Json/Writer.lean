import CardReboot.Json.Basic

/-!
# Writing JSON

A value is written without spaces and in ASCII alone: every other character
inside a string is written as the number of its code point, or as the two
halves of a surrogate pair.
-/

namespace CardReboot.Json

/-- Four hexadecimal digits. -/
def hex4 (n : Nat) : List Char :=
  let digits := Nat.toDigits 16 n
  List.replicate (4 - digits.length) '0' ++ digits

def unicodeEscape (n : Nat) : List Char := '\\' :: 'u' :: hex4 n

def escapeChar (c : Char) : List Char :=
  let n := c.toNat
  if c = '"' then ['\\', '"']
  else if c = '\\' then ['\\', '\\']
  else if 0x20 ≤ n ∧ n < 0x7F then [c]
  else if n < 0x10000 then unicodeEscape n
  else unicodeEscape (0xD800 + (n - 0x10000) / 0x400) ++
    unicodeEscape (0xDC00 + (n - 0x10000) % 0x400)

def writeString (s : String) : List Char :=
  '"' :: s.toList.flatMap escapeChar ++ ['"']

mutual

def write : Json → List Char
  | null => "null".toList
  | bool true => "true".toList
  | bool false => "false".toList
  | number n => n.text.toList
  | string s => writeString s
  | array items => '[' :: writeItems true items ++ [']']
  | object members => '\x7b' :: writeMembers true members ++ ['\x7d']

/-- The items, with a comma before each but the first. -/
def writeItems : Bool → List Json → List Char
  | _, [] => []
  | first, item :: rest =>
      (if first then [] else [',']) ++ write item ++ writeItems false rest

def writeMembers : Bool → List (String × Json) → List Char
  | _, [] => []
  | first, (name, value) :: rest =>
      (if first then [] else [',']) ++ writeString name ++ [':'] ++ write value ++
        writeMembers false rest

end

/-- The value as one line of text. -/
def text (j : Json) : String := String.ofList (write j)

end CardReboot.Json
