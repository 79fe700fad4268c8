/-!
# Words and operators of a shell text

Outside quotes blanks set words apart, operators stand for themselves, and a
word that begins with a number sign starts a comment up to the end of the line.
Between single quotes every character stands for itself.  Between double quotes
only a double quote ends the quotation, a dollar sign or a backquote starts an
expansion, and a backslash is special only before the characters that need it
there.  A backslash before a line feed disappears together with it.

An argument is quoted as one word between double quotes.  The five characters that keep
a meaning there get a backslash before them.
-/

namespace CardReboot.Shell

/-! ## Quoting -/

/-- Whether the shell gives the character a meaning inside double quotes when it
follows a backslash. -/
def isEscapable (c : Char) : Bool :=
  c == '$' || c == Char.ofNat 96 || c == '"' || c == '\\' || c == '\n'

def escapeChar (c : Char) : List Char := if isEscapable c then ['\\', c] else [c]

/-- The text as one word. -/
def quoteText (text : List Char) : List Char :=
  '"' :: text.flatMap escapeChar ++ ['"']

/-- The argument as one word. -/
def quoteArgument (argument : String) : String :=
  String.ofList (quoteText argument.toList)

/-! ## Words -/

/-- A piece of a word. -/
inductive Piece
  /-- A character outside quotes. -/
  | plain (c : Char)
  | quoted (c : Char)
  | exitStatus
  | processNumber
  /-- Any other expansion. -/
  | expansion (inQuotes : Bool)
  deriving DecidableEq, Repr

abbrev Word := List Piece

namespace Piece

/-- The character that the piece stands for, unless it is an expansion. -/
def char? : Piece → Option Char
  | plain c => some c
  | quoted c => some c
  | _ => none

end Piece

/-- The text of a word without expansions. -/
def Word.text? (w : Word) : Option String := String.ofList <$> w.mapM Piece.char?

inductive Operator
  | semicolon
  | newline
  | andIf
  | orIf
  | openGroup
  | closeGroup
  | pipe
  | background
  | doubleSemicolon
  deriving DecidableEq, Repr

inductive Token
  | word (w : Word)
  | operator (o : Operator)
  /-- Ties a stream to a file, or to what another stream is tied to. -/
  | redirection (stream : Char) (toStream : Bool)
  | comment
  /-- The end of the text. -/
  | finish
  /-- The end of the text where a character is still missing. -/
  | unclosed (mark : Char)
  deriving DecidableEq, Repr

/-- Where in a text reading stands. -/
inductive Place
  | betweenWords
  | bare
  | escaped
  | single
  | double
  | doubleEscaped
  | comment
  /-- At the second character of an operator. -/
  | paired
  /-- Inside an expansion that ends with `mark`, with so many of its characters
  left after this one. -/
  | expanding (mark : Char) (left : Nat) (inQuotes : Bool)
  deriving DecidableEq, Repr

/-- The place behind one character of an expansion. -/
def Place.afterExpanding (mark : Char) (left : Nat) (inQuotes : Bool) : Place :=
  match left with
  | 0 => if inQuotes then .double else .bare
  | left + 1 => .expanding mark left inQuotes

/-- What a text holds from some place on: the rest of the word that the place is
in, if any, and the tokens after it. -/
structure Scanned where
  word : Option Word := none
  tokens : List Token := []
  deriving DecidableEq, Repr

namespace Scanned

def push (p : Piece) (s : Scanned) : Scanned := { s with word := some (p :: s.word.getD []) }

/-- There is a word here, even if nothing is in it. -/
def hold (s : Scanned) : Scanned := { s with word := some (s.word.getD []) }

/-- All tokens, the open word among them. -/
def all (s : Scanned) : List Token := (s.word.map Token.word).toList ++ s.tokens

/-- A token before everything else. -/
def after (t : Token) (s : Scanned) : Scanned := ⟨none, t :: s.all⟩

/-- The word ends here. -/
def apart (s : Scanned) : Scanned := ⟨none, s.all⟩

/-- Gives a redirection at the start the stream that is named before it. -/
def ofStream (stream : Char) (s : Scanned) : Scanned :=
  match s.tokens with
  | .redirection _ toStream :: rest => ⟨none, .redirection stream toStream :: rest⟩
  | _ => s

end Scanned

def backquote : Char := Char.ofNat 96

def isNameStart (c : Char) : Bool := c.isAlpha || c == '_'

def isNameCharacter (c : Char) : Bool := c.isAlphanum || c == '_'

/-- How many characters up to and with the next `mark` there are. -/
def lengthThrough (mark : Char) (text : List Char) : Nat :=
  (text.takeWhile (· != mark)).length + 1

/-- An expansion: the piece of a word that it is, its last character, and how many
characters there are behind the dollar sign or backquote. -/
structure Expansion where
  piece : Piece
  mark : Char
  length : Nat
  deriving DecidableEq, Repr

/-- The place inside an expansion. -/
def Expansion.inside (e : Expansion) (inQuotes : Bool) : Place :=
  .expanding e.mark (e.length - 1) inQuotes

/-- What a dollar sign before this text starts. -/
def expansionAt (inQuotes : Bool) : List Char → Option Expansion
  | [] => none
  | c :: rest =>
      if c = '$' then some ⟨.processNumber, c, 1⟩
      else if c = '?' then some ⟨.exitStatus, c, 1⟩
      else if isNameStart c then
        some ⟨.expansion inQuotes, c, ((c :: rest).takeWhile isNameCharacter).length⟩
      else if c.isDigit || c == '@' || c == '*' || c == '#' || c == '-' || c == '!' then
        some ⟨.expansion inQuotes, c, 1⟩
      else if c = '\x7b' then
        some ⟨.expansion inQuotes, '\x7d', lengthThrough '\x7d' (c :: rest)⟩
      else if c = '(' then some ⟨.expansion inQuotes, ')', lengthThrough ')' (c :: rest)⟩
      else none

/-- What a backquote before this text starts. -/
def substitutionAt (inQuotes : Bool) (text : List Char) : Expansion :=
  ⟨.expansion inQuotes, backquote, lengthThrough backquote text⟩

/-- Reads a text from a place on. -/
def scan : Place → List Char → Scanned
  | .single, [] | .double, [] | .doubleEscaped, [] => ⟨none, [.unclosed '"']⟩
  | .expanding mark _ _, [] => ⟨none, [.unclosed mark]⟩
  | .escaped, [] => Scanned.push (.quoted '\\') ⟨none, [.finish]⟩
  | _, [] => ⟨none, [.finish]⟩
  | .paired, _ :: rest => scan .betweenWords rest
  | .expanding mark left inQuotes, _ :: rest =>
      scan (.afterExpanding mark left inQuotes) rest
  | .comment, c :: rest =>
      if c = '\n' then (scan .betweenWords rest).after (.operator .newline)
      else scan .comment rest
  | .escaped, c :: rest =>
      if c = '\n' then scan .bare rest
      else (scan .bare rest).push (.quoted c)
  | .single, c :: rest =>
      if c = '\'' then (scan .bare rest).hold
      else (scan .single rest).push (.quoted c)
  | .doubleEscaped, c :: rest =>
      if c = '\n' then scan .double rest
      else if isEscapable c then (scan .double rest).push (.quoted c)
      else ((scan .double rest).push (.quoted c)).push (.quoted '\\')
  | .double, c :: rest =>
      if c = '"' then (scan .bare rest).hold
      else if c = '\\' then scan .doubleEscaped rest
      else if c = backquote then
        (scan ((substitutionAt true rest).inside true) rest).push (.expansion true)
      else if c ≠ '$' then (scan .double rest).push (.quoted c)
      else match expansionAt true rest with
        | some e => (scan (e.inside true) rest).push e.piece
        | none => (scan .double rest).push (.quoted c)
  | place, c :: rest =>
      if c = ' ' ∨ c = '\t' then (scan .betweenWords rest).apart
      else if c = '\n' then (scan .betweenWords rest).after (.operator .newline)
      else if c = '\'' then (scan .single rest).hold
      else if c = '"' then (scan .double rest).hold
      else if c = '\\' then scan .escaped rest
      else if c = '#' ∧ place = .betweenWords then (scan .comment rest).after .comment
      else if c = ';' then
        if rest.head? = some ';' then (scan .paired rest).after (.operator .doubleSemicolon)
        else (scan .betweenWords rest).after (.operator .semicolon)
      else if c = '(' then (scan .betweenWords rest).after (.operator .openGroup)
      else if c = ')' then (scan .betweenWords rest).after (.operator .closeGroup)
      else if c = '&' then
        if rest.head? = some '&' then (scan .paired rest).after (.operator .andIf)
        else (scan .betweenWords rest).after (.operator .background)
      else if c = '|' then
        if rest.head? = some '|' then (scan .paired rest).after (.operator .orIf)
        else (scan .betweenWords rest).after (.operator .pipe)
      else if c = '<' then
        if rest.head? = some '&' then (scan .paired rest).after (.redirection '0' true)
        else (scan .betweenWords rest).after (.redirection '0' false)
      else if c = '>' then
        if rest.head? = some '&' then (scan .paired rest).after (.redirection '1' true)
        else if rest.head? = some '>' then (scan .paired rest).after (.redirection '1' false)
        else (scan .betweenWords rest).after (.redirection '1' false)
      else if c.isDigit ∧ place = .betweenWords ∧
          (rest.head? = some '>' ∨ rest.head? = some '<') then
        (scan .betweenWords rest).ofStream c
      else if c = backquote then
        (scan ((substitutionAt false rest).inside false) rest).push (.expansion false)
      else if c ≠ '$' then (scan .bare rest).push (.plain c)
      else match expansionAt false rest with
        | some e => (scan (e.inside false) rest).push e.piece
        | none => (scan .bare rest).push (.plain c)

/-- The tokens of a text. -/
def tokens (text : List Char) : List Token := (scan .betweenWords text).all

/-- The words before the end of the text, if there is nothing but words. -/
def wordsOnly? : List Token → Option (List String)
  | [.finish] => some []
  | .word w :: rest => do
      let first ← w.text?
      let others ← wordsOnly? rest
      some (first :: others)
  | _ => none

/-- The words of a text that is one simple command: words alone, without any
operator, comment or expansion. -/
def simpleCommand? (text : List Char) : Option (List String) := wordsOnly? (tokens text)

end CardReboot.Shell
