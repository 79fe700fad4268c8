import CardReboot.Toml.Document
import CardReboot.Toml.Quoted

/-!
# Reading TOML

A document is read line by line: a line is blank, a header, or a key with its
value, and a comment may end it.  Lists may go over several lines and may end in
a comma; a table in braces stays on its line and may not.
-/

namespace CardReboot.TomlReader

open Text

def skipGap (text : List Char) : List Char := text.dropWhile isGap

/-- Skips a comment, if one starts here; nothing when it holds a character that
it may not hold. -/
def skipComment? : List Char → Option (List Char)
  | '#' :: rest =>
      let left := rest.dropWhile isAllowed
      if left.isEmpty || (lineEnd? left).isSome then some left else none
  | text => some text

/-- Skips the end of a line, blanks and a comment before it included. -/
def skipLine? (text : List Char) : Option (List Char) := do
  match ← skipComment? (skipGap text) with
  | [] => some []
  | left => lineEnd? left

/-- Skips blanks, comments and line ends. -/
def skipLines? : Nat → List Char → Option (List Char)
  | 0, _ => none
  | fuel + 1, text => do
      let left ← skipComment? (skipGap text)
      match lineEnd? left with
      | some rest => skipLines? fuel rest
      | none => some left

def isBareCharacter (c : Char) : Bool := c.isAlphanum || c == '_' || c == '-'

/-- Reads one part of a key. -/
def keyPart? : List Char → Option (String × List Char)
  | [] => none
  | c :: rest =>
      if c = '"' ∨ c = '\'' then do
        let (part, rest) ← lineString c (rest.length + 1) rest
        some (String.ofList part, rest)
      else
        let part := (c :: rest).takeWhile isBareCharacter
        if part.isEmpty then none
        else some (String.ofList part, (c :: rest).dropWhile isBareCharacter)

/-- Reads a key: the parts before its last dot, the last part, and the rest. -/
def key? : Nat → List Char → Option (List String × String × List Char)
  | 0, _ => none
  | fuel + 1, text => do
      let (part, rest) ← keyPart? (skipGap text)
      match skipGap rest with
      | '.' :: rest => do
          let (path, last, rest) ← key? fuel rest
          some (part :: path, last, rest)
      | rest => some ([], part, rest)

/-- Whether a value without quotes and brackets goes on here. -/
def isScalarCharacter (c : Char) : Bool :=
  !isGapOrEnd c && c != ',' && c != ']' && c != '\x7d' && c != '#'

/-- The text of a value without quotes and brackets: a date and a time may have
one blank between them. -/
def scalarText (text : List Char) : List Char × List Char :=
  let first := text.takeWhile isScalarCharacter
  let rest := text.dropWhile isScalarCharacter
  match rest with
  | ' ' :: c :: more =>
      if isDate first && isAsciiDigit c then
        (first ++ ' ' :: (c :: more).takeWhile isScalarCharacter,
          (c :: more).dropWhile isScalarCharacter)
      else (first, rest)
  | _ => (first, rest)

mutual

/-- Reads a value with at most `depth` levels of lists and tables in it. -/
def value? : Nat → Nat → List Char → Option (Toml × List Char)
  | 0, _, _ => none
  | fuel + 1, depth, text =>
      match text with
      | [] => none
      | '"' :: rest => do
          let (s, rest) ← quotedString '"' rest
          some (.string (String.ofList s), rest)
      | '\'' :: rest => do
          let (s, rest) ← quotedString '\'' rest
          some (.string (String.ofList s), rest)
      | '[' :: rest =>
          match depth with
          | 0 => none
          | depth + 1 => do
              let (items, rest) ← items? fuel depth rest
              some (.array items, rest)
      | '\x7b' :: rest =>
          match depth with
          | 0 => none
          | depth + 1 =>
              match skipGap rest with
              | '\x7d' :: rest => some (.table [], rest)
              | rest => do
                  let (entries, rest) ← entries? fuel depth [] rest
                  some (.table (TomlNode.entriesToToml entries), rest)
      | text => do
          let (scalar, rest) := scalarText text
          some (← scalar? scalar, rest)

/-- Reads the items of a list up to its end. -/
def items? : Nat → Nat → List Char → Option (List Toml × List Char)
  | 0, _, _ => none
  | fuel + 1, depth, text => do
      match ← skipLines? (text.length + 1) text with
      | ']' :: rest => some ([], rest)
      | text => do
          let (item, rest) ← value? fuel depth text
          match ← skipLines? (rest.length + 1) rest with
          | ']' :: rest => some ([item], rest)
          | ',' :: rest => do
              let (others, rest) ← items? fuel depth rest
              some (item :: others, rest)
          | _ => none

/-- Reads the entries of a table in braces up to its end, to those so far. -/
def entries? : Nat → Nat → TomlEntries → List Char → Option (TomlEntries × List Char)
  | 0, _, _, _ => none
  | fuel + 1, depth, found, text => do
      let (path, key, rest) ← key? (text.length + 1) text
      match rest with
      | '=' :: rest => do
          let (v, rest) ← value? fuel depth (skipGap rest)
          let found ← TomlEntries.set? path key v false found
          match skipGap rest with
          | '\x7d' :: rest => some (found, rest)
          | ',' :: rest => entries? fuel depth found rest
          | _ => none
      | _ => none

end

/-- How many levels of lists and tables a value may have. -/
def depthLimit : Nat := 80

/-- Reads one statement; `text` starts with neither blank nor line end. -/
def statement? (text : List Char) (d : TomlDocument) : Option (TomlDocument × List Char) :=
  match text with
  | '[' :: '[' :: rest => do
      let (path, key, rest) ← key? (rest.length + 1) rest
      match rest with
      | ']' :: ']' :: rest => some (← d.openListed? path key, rest)
      | _ => none
  | '[' :: rest => do
      let (path, key, rest) ← key? (rest.length + 1) rest
      match rest with
      | ']' :: rest => some (← d.openTable? path key, rest)
      | _ => none
  | text => do
      let (path, key, rest) ← key? (text.length + 1) text
      match rest with
      | '=' :: rest => do
          let (v, rest) ← value? (text.length + 1) depthLimit (skipGap rest)
          some (← d.set? path key v, rest)
      | _ => none

/-- Reads statements to the end of the text. -/
def statements? : Nat → List Char → TomlDocument → Option TomlDocument
  | 0, _, _ => none
  | fuel + 1, text, d => do
      match ← skipLines? (text.length + 1) text with
      | [] => some d
      | text => do
          let (d, rest) ← statement? text d
          let rest ← skipLine? rest
          statements? fuel rest d

/-- The mark that may stand before a text to tell its encoding. -/
def byteOrderMark : Char := Char.ofNat 0xFEFF

def skipMark : List Char → List Char
  | [] => []
  | c :: rest => if c = byteOrderMark then rest else c :: rest

end CardReboot.TomlReader

namespace CardReboot.Toml

/-- Reads a document: a table. -/
def read? (text : String) : Option Toml := do
  let text := TomlReader.skipMark text.toList
  let document ← TomlReader.statements? (text.length + 1) text {}
  some document.toToml

end CardReboot.Toml
