import CardReboot.Json.Number
import CardReboot.Text.Positional

/-!
# Reading JSON

The reader takes the format at its word: no comments, no commas at the end of a
list, no zeros before a number, both halves of a surrogate pair or none.  Lists
and objects may stand inside each other a fixed number of levels deep.  Of a
member that is repeated the last value stays.
-/

namespace CardReboot.JsonReader

open Text

def isSpace (c : Char) : Bool := c == ' ' || c == '\n' || c == '\t' || c == '\r'

def skipSpaces (text : List Char) : List Char := text.dropWhile isSpace

/-- Reads the letters that are left of a word. -/
def word (value : Json) : List Char → List Char → Except JsonStop (Json × List Char)
  | [], text => .ok (value, text)
  | _ :: _, [] => stopAt .endInValue []
  | letter :: more, c :: rest =>
      if c = letter then word value more rest else stopIn .expectedWord (c :: rest)

/-- The number that four hexadecimal digits are. -/
def fourHexDigits? : List Char → Option (Nat × List Char)
  | a :: b :: c :: d :: rest => do
      let a ← hexValue? a
      let b ← hexValue? b
      let c ← hexValue? c
      let d ← hexValue? d
      some (((a * 16 + b) * 16 + c) * 16 + d, rest)
  | _ => none

/-- Reads four hexadecimal digits; the four octets are taken in any case. -/
def hexEscape (text : List Char) : Except JsonStop (Nat × List Char) :=
  match fourHexDigits? text with
  | some found => .ok found
  | none =>
      if (encode (text.take 4)).length < 4 then stopAt .endInString []
      else .error ⟨.invalidEscape, text, 4⟩

def isLeadingSurrogate (n : Nat) : Bool := 0xD800 ≤ n && n ≤ 0xDBFF

def isTrailingSurrogate (n : Nat) : Bool := 0xDC00 ≤ n && n ≤ 0xDFFF

/-- Reads one mark behind a leading surrogate. -/
def surrogateMark (mark : Char) : List Char → Except JsonStop (List Char)
  | [] => stopAt .endInString []
  | c :: rest => if c = mark then .ok rest else stopIn .endOfSurrogates (c :: rest)

/-- Reads an escape given by a number, or by the two halves of a pair. -/
def unicodeEscape (text : List Char) : Except JsonStop (Char × List Char) := do
  let (first, text) ← hexEscape text
  if isTrailingSurrogate first then stopAt .loneSurrogate text
  else if isLeadingSurrogate first then
    let text ← surrogateMark '\\' text
    let text ← surrogateMark 'u' text
    let (second, text) ← hexEscape text
    if isTrailingSurrogate second then
      return (Char.ofNat ((first - 0xD800) * 0x400 + (second - 0xDC00) + 0x10000), text)
    else stopAt .loneSurrogate text
  else return (Char.ofNat first, text)

/-- Reads an escape behind its backslash. -/
def escape : List Char → Except JsonStop (Char × List Char)
  | [] => stopAt .endInString []
  | c :: rest =>
      if c = '"' ∨ c = '\\' ∨ c = '/' then .ok (c, rest)
      else if c = 'b' then .ok (Char.ofNat 8, rest)
      else if c = 'f' then .ok (Char.ofNat 12, rest)
      else if c = 'n' then .ok ('\n', rest)
      else if c = 'r' then .ok ('\r', rest)
      else if c = 't' then .ok ('\t', rest)
      else if c = 'u' then unicodeEscape rest
      else stopIn .invalidEscape (c :: rest)

/-- Reads a string behind its opening quote, at most `fuel` characters of it. -/
def stringBody : Nat → List Char → Except JsonStop (List Char × List Char)
  | 0, text => stopAt .endInString text
  | _, [] => stopAt .endInString []
  | fuel + 1, c :: rest =>
      if c = '"' then .ok ([], rest)
      else if c = '\\' then do
        let (escaped, rest) ← escape rest
        let (body, rest) ← stringBody fuel rest
        return (escaped :: body, rest)
      else if c.toNat < 0x20 then stopIn .controlCharacter (c :: rest)
      else do
        let (body, rest) ← stringBody fuel rest
        return (c :: body, rest)

/-- Reads a string behind its opening quote. -/
def string (text : List Char) : Except JsonStop (String × List Char) := do
  let (body, rest) ← stringBody (text.length + 1) text
  return (String.ofList body, rest)

def colon (text : List Char) : Except JsonStop (List Char) :=
  match skipSpaces text with
  | [] => stopAt .endInObject []
  | c :: rest => if c = ':' then .ok rest else stopIn .expectedColon (c :: rest)

/-- What stands before the next item of a list. -/
inductive ListMark
  | item (text : List Char)
  | finish (text : List Char)

def listMark (first : Bool) (text : List Char) : Except JsonStop ListMark :=
  match skipSpaces text with
  | [] => stopAt .endInList []
  | ']' :: rest => .ok (.finish rest)
  | c :: rest =>
      if first then .ok (.item (c :: rest))
      else if c = ',' then
        match skipSpaces rest with
        | [] => stopAt .endInValue []
        | ']' :: after => stopIn .trailingComma (']' :: after)
        | next => .ok (.item next)
      else stopIn .expectedListEnd (c :: rest)

/-- What stands before the next member of an object: its name behind the quote,
or the end. -/
def objectMark (first : Bool) (text : List Char) : Except JsonStop ListMark :=
  match skipSpaces text with
  | [] => stopAt .endInObject []
  | '\x7d' :: rest => .ok (.finish rest)
  | c :: rest =>
      if first then
        if c = '"' then .ok (.item rest) else stopIn .keyIsNoString (c :: rest)
      else if c = ',' then
        match skipSpaces rest with
        | [] => stopAt .endInValue []
        | '"' :: name => .ok (.item name)
        | '\x7d' :: after => stopIn .trailingComma ('\x7d' :: after)
        | next => stopIn .keyIsNoString next
      else stopIn .expectedObjectEnd (c :: rest)

mutual

/-- Reads a value with at most `depth` levels of lists and objects in it. -/
def value : Nat → Nat → List Char → Except JsonStop (Json × List Char)
  | 0, _, text => stopAt .endInValue text
  | fuel + 1, depth, text =>
      match skipSpaces text with
      | [] => stopAt .endInValue []
      | 'n' :: rest => word .null ['u', 'l', 'l'] rest
      | 't' :: rest => word (.bool true) ['r', 'u', 'e'] rest
      | 'f' :: rest => word (.bool false) ['a', 'l', 's', 'e'] rest
      | '-' :: rest => do
          let (n, rest) ← number false rest
          return (.number n, rest)
      | '"' :: rest => do
          let (s, rest) ← string rest
          return (.string s, rest)
      | '[' :: rest =>
          match depth with
          | 0 => stopIn .tooDeep ('[' :: rest)
          | depth + 1 => do
              let (items, rest) ← items fuel depth true rest
              return (.array items, rest)
      | '\x7b' :: rest =>
          match depth with
          | 0 => stopIn .tooDeep ('\x7b' :: rest)
          | depth + 1 => do
              let (members, rest) ← members fuel depth true [] rest
              return (.object members, rest)
      | c :: rest =>
          if isAsciiDigit c then do
            let (n, rest) ← number true (c :: rest)
            return (.number n, rest)
          else stopIn .expectedValue (c :: rest)

/-- Reads the items of a list up to its end. -/
def items : Nat → Nat → Bool → List Char → Except JsonStop (List Json × List Char)
  | 0, _, _, text => stopAt .endInList text
  | fuel + 1, depth, first, text => do
      match ← listMark first text with
      | .finish rest => return ([], rest)
      | .item text =>
          let (item, rest) ← value fuel depth text
          let (others, rest) ← items fuel depth false rest
          return (item :: others, rest)

/-- Reads the members of an object up to its end, to those found so far. -/
def members : Nat → Nat → Bool → List (String × Json) → List Char →
    Except JsonStop (List (String × Json) × List Char)
  | 0, _, _, _, text => stopAt .endInObject text
  | fuel + 1, depth, first, found, text => do
      match ← objectMark first text with
      | .finish rest => return (found, rest)
      | .item text =>
          let (name, rest) ← string text
          let rest ← colon rest
          let (item, rest) ← value fuel depth rest
          members fuel depth false (Json.insertMember name item found) rest

end

/-- How many levels of lists and objects a text may have. -/
def depthLimit : Nat := 127

end CardReboot.JsonReader

namespace CardReboot.Json

/-- Reads a text that holds one value and nothing else but spaces. -/
def read (text : List Char) : Except JsonStop Json := do
  let (value, rest) ← JsonReader.value (text.length + 1) JsonReader.depthLimit text
  match JsonReader.skipSpaces rest with
  | [] => return value
  | left => JsonReader.stopIn .trailingCharacters left

/-- Reads a text, and tells what is wrong and where in a message. -/
def parse (text : List Char) : Except String Json :=
  (read text).mapError fun stop => stop.message text

end CardReboot.Json
