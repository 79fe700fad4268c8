import CardReboot.Toml.Scalar

/-!
# TOML strings

A string stands between quotes of either kind, single or threefold.  Between
double quotes a backslash starts an escape; between single quotes every
character stands for itself.  A string between threefold quotes may hold line
ends, the first of which does not count when it follows the opening, and up to
two quotes in a row.  Control characters other than the tab are refused.
-/

namespace CardReboot.TomlReader

open Text

/-- Whether a string or a comment may hold the character. -/
def isAllowed (c : Char) : Bool :=
  c == '\t' || 0x20 ≤ c.toNat && c.toNat != 0x7F

/-- The character with the number that so many hexadecimal digits are. -/
def codePoint? (length : Nat) (text : List Char) : Option (Char × List Char) :=
  let digits := text.take length
  let n := numeral 16 digits
  if digits.length = length ∧ digits.all (isDigitOf 16) ∧ n.isValidChar then
    some (Char.ofNat n, text.drop length)
  else none

/-- Reads an escape behind its backslash. -/
def escape? : List Char → Option (Char × List Char)
  | 'b' :: rest => some (Char.ofNat 8, rest)
  | 't' :: rest => some ('\t', rest)
  | 'n' :: rest => some ('\n', rest)
  | 'f' :: rest => some (Char.ofNat 12, rest)
  | 'r' :: rest => some ('\r', rest)
  | '"' :: rest => some ('"', rest)
  | '\\' :: rest => some ('\\', rest)
  | 'u' :: rest => codePoint? 4 rest
  | 'U' :: rest => codePoint? 8 rest
  | _ => none

/-- A text and what follows it. -/
abbrev Taken := Option (List Char × List Char)

def Taken.prepend (c : Char) (t : Taken) : Taken := t.map fun found => (c :: found.1, found.2)

/-- Reads a string on one line behind its opening quote. -/
def lineString (quote : Char) : Nat → List Char → Taken
  | 0, _ => none
  | _, [] => none
  | fuel + 1, c :: rest =>
      if c = quote then some ([], rest)
      else if c = '\\' ∧ quote = '"' then
        match escape? rest with
        | some (escaped, rest) => Taken.prepend escaped (lineString quote fuel rest)
        | none => none
      else if isAllowed c then Taken.prepend c (lineString quote fuel rest)
      else none

/-- Removes the line end at the start, if there is one. -/
def lineEnd? : List Char → Option (List Char)
  | '\n' :: rest => some rest
  | '\r' :: '\n' :: rest => some rest
  | _ => none

def isGap (c : Char) : Bool := c == ' ' || c == '\t'

def isGapOrEnd (c : Char) : Bool := isGap c || c == '\n' || c == '\r'

/-- Skips blanks and line ends when a line end is the first thing after blanks. -/
def continuation? (text : List Char) : Option (List Char) :=
  if (lineEnd? (text.dropWhile isGap)).isSome then some (text.dropWhile isGapOrEnd) else none

/-- Whether every carriage return in the text belongs to a line end. -/
def hasWholeEnds : List Char → Bool
  | [] => true
  | '\r' :: '\n' :: rest => hasWholeEnds rest
  | c :: rest => c != '\r' && hasWholeEnds rest

/-- Reads a string over several lines behind its opening quotes. -/
def blockString (quote : Char) : Nat → List Char → Taken
  | 0, _ => none
  | _, [] => none
  | fuel + 1, c :: rest =>
      if c = quote then
        let quotes := ((c :: rest).takeWhile (· == quote)).length
        if quotes < 3 then Taken.prepend quote (blockString quote fuel rest)
        else if quotes ≤ 5 then some (List.replicate (quotes - 3) quote, rest.drop (quotes - 1))
        else none
      else if c = '\\' ∧ quote = '"' then
        match continuation? rest with
        | some after =>
            if hasWholeEnds (rest.take (rest.length - after.length)) then
              blockString quote fuel after
            else none
        | none =>
            match escape? rest with
            | some (escaped, rest) => Taken.prepend escaped (blockString quote fuel rest)
            | none => none
      else match lineEnd? (c :: rest) with
        | some rest => Taken.prepend '\n' (blockString quote fuel rest)
        | none =>
            if isAllowed c then Taken.prepend c (blockString quote fuel rest) else none

/-- Reads a string behind its first quote. -/
def quotedString (quote : Char) (text : List Char) : Taken :=
  match text with
  | c :: d :: rest =>
      if c = quote ∧ d = quote then
        blockString quote (rest.length + 1) ((lineEnd? rest).getD rest)
      else lineString quote (text.length + 1) text
  | _ => lineString quote (text.length + 1) text

end CardReboot.TomlReader
