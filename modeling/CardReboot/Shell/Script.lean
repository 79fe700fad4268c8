import CardReboot.Shell.Token

/-!
# Shell scripts

A script is built from commands by sequence, by the two connectives that look
at the exit status of their left side, by pipes, by negation and by grouping in
a subshell.  Both connectives bind equally and to the left.

A text is read one line at a time: what stands before a fault on lines of its
own is still a script.
-/

namespace CardReboot.Shell

/-- Ties a stream to what the target names. -/
structure Redirection where
  stream : Char
  toStream : Bool
  target : Word
  deriving DecidableEq, Repr

/-- A script.  Commands and groups know the line they begin on. -/
inductive Script
  | nothing
  | command (line : Nat) (words : List Word) (redirections : List Redirection)
  | subshell (line : Nat) (body : Script) (redirections : List Redirection)
  | pipe (first second : Script)
  | negation (body : Script)
  | both (first second : Script)
  | either (first second : Script)
  | background (body : Script)
  | sequence (first second : Script)
  deriving Repr

/-- A token and the line on which it ends. -/
structure PlacedToken where
  line : Nat
  token : Token
  deriving DecidableEq, Repr

namespace Token

/-- How many line ends are in the token. -/
def lineEnds : Token → Nat
  | .operator .newline => 1
  | .word w => w.count (.quoted '\n')
  | _ => 0

/-- The tokens with their lines, without the comments. -/
def place : Nat → List Token → List PlacedToken
  | _, [] => []
  | line, .comment :: rest => place line rest
  | line, token :: rest =>
      ⟨line + token.lineEnds, token⟩ :: place (line + token.lineEnds) rest

/-- The token as it is named in a complaint. -/
def name : Token → String
  | .word w => if w = [.plain '!'] then "\"!\"" else "word"
  | .operator .newline => "newline"
  | .operator .semicolon => "\";\""
  | .operator .andIf => "\"&&\""
  | .operator .orIf => "\"||\""
  | .operator .openGroup => "\"(\""
  | .operator .closeGroup => "\")\""
  | .operator .pipe => "\"|\""
  | .operator .background => "\"&\""
  | .operator .doubleSemicolon => "\";;\""
  | .redirection _ _ => "redirection"
  | .comment | .finish | .unclosed _ => "end of file"

end Token

/-- Why a text cannot be read. -/
inductive SyntaxFault
  /-- The text ends before a quotation or an expansion does. -/
  | unclosed (mark : Char)
  | unexpected (token : Token)
  /-- Where a group has to be closed. -/
  | unclosedGroup (token : Token)
  deriving DecidableEq, Repr

def SyntaxFault.message : SyntaxFault → String
  | unclosed mark =>
      if mark = backquote then "EOF in backquote substitution"
      else if mark = '\x7d' then "Missing '\x7d'"
      else if mark = ')' then "end of file unexpected (expecting \")\")"
      else "Unterminated quoted string"
  | unexpected token => token.name ++ " unexpected"
  | unclosedGroup token => token.name ++ " unexpected (expecting \")\")"

structure PlacedFault where
  line : Nat
  fault : SyntaxFault
  deriving DecidableEq, Repr

namespace Script

/-- A part of a text and the tokens behind it. -/
abbrev Part (α : Type) := α × List PlacedToken

/-- The fault of the first token, unless something is left open there. -/
def faultAt (fault : Token → SyntaxFault) : List PlacedToken → PlacedFault
  | ⟨_, .word _⟩ :: ⟨line, .unclosed mark⟩ :: _ => ⟨line, .unclosed mark⟩
  | ⟨line, .unclosed mark⟩ :: _ => ⟨line, .unclosed mark⟩
  | ⟨line, token⟩ :: _ => ⟨line, fault token⟩
  | [] => ⟨1, fault .finish⟩

def unexpected (tokens : List PlacedToken) : PlacedFault := faultAt .unexpected tokens

def isNewline (t : PlacedToken) : Bool := t.token == .operator .newline

def skipNewlines (tokens : List PlacedToken) : List PlacedToken := tokens.dropWhile isNewline

/-- Takes the redirections at the start. -/
def redirections : List PlacedToken → Except PlacedFault (Part (List Redirection))
  | ⟨_, .redirection stream toStream⟩ :: ⟨_, .word w⟩ :: rest => do
      let (others, rest) ← redirections rest
      .ok (⟨stream, toStream, w⟩ :: others, rest)
  | ⟨_, .redirection _ _⟩ :: rest => .error (unexpected rest)
  | tokens => .ok ([], tokens)

/-- Takes the words and redirections at the start. -/
def simple :
    List PlacedToken → Except PlacedFault (Part (List Word × List Redirection))
  | ⟨_, .word w⟩ :: rest => do
      let ((words, redirections), rest) ← simple rest
      .ok ((w :: words, redirections), rest)
  | ⟨_, .redirection stream toStream⟩ :: ⟨_, .word w⟩ :: rest => do
      let ((words, redirections), rest) ← simple rest
      .ok ((words, ⟨stream, toStream, w⟩ :: redirections), rest)
  | ⟨_, .redirection _ _⟩ :: rest => .error (unexpected rest)
  | tokens => .ok (([], []), tokens)

/-- The word that negates what follows it. -/
def negates : Token → Bool
  | .word w => w == [.plain '!']
  | _ => false

/-- Reads one simple command. -/
def simpleCommand (tokens : List PlacedToken) : Except PlacedFault (Part Script) := do
  match ← simple tokens with
  | (([], []), rest) => .error (unexpected rest)
  | ((words, redirections), rest) =>
      match words, redirections, rest with
      | [_], [], ⟨_, .operator .openGroup⟩ :: rest => .error (faultAt .unclosedGroup rest)
      | _, _, _ => .ok (.command ((tokens.head?.map (·.line)).getD 1) words redirections, rest)

/-- One script after another. -/
def andThen (first second : Script) : Script :=
  match second with
  | .nothing => first
  | second => .sequence first second

/-- Takes what may set two scripts of a list apart, and tells whether the first
of them is left to itself. -/
def separator? (inGroup : Bool) : List PlacedToken → Option (Bool × List PlacedToken)
  | ⟨_, .operator .semicolon⟩ :: rest => some (false, rest)
  | ⟨_, .operator .background⟩ :: rest => some (true, rest)
  | ⟨_, .operator .newline⟩ :: rest => if inGroup then some (false, rest) else none
  | _ => none

/-- Whether a list may end before the tokens.  A group holds at least one
script, and outside groups a list ends with its line. -/
def mayEnd (inGroup started : Bool) : List PlacedToken → Bool
  | [] => true
  | t :: _ =>
      match t.token with
      | .finish => true
      | .operator .newline => !inGroup
      | .operator .closeGroup | .operator .doubleSemicolon => inGroup && started
      | _ => false

mutual

/-- Reads a list of scripts, the rest of one if it has `started`. -/
def list (inGroup : Bool) :
    Nat → Bool → List PlacedToken → Except PlacedFault (Part Script)
  | 0, _, tokens => .error (unexpected tokens)
  | fuel + 1, started, tokens => do
      let tokens := if inGroup then skipNewlines tokens else tokens
      if mayEnd inGroup started tokens then .ok (.nothing, tokens)
      else
        let (first, rest) ← connected fuel tokens
        match separator? inGroup rest with
        | some (alone, rest) =>
            let (others, rest) ← list inGroup fuel true rest
            .ok ((if alone then Script.background first else first).andThen others, rest)
        | none =>
            if inGroup || mayEnd false true rest then .ok (first, rest)
            else .error (unexpected rest)

/-- Reads what the two connectives hold together. -/
def connected : Nat → List PlacedToken → Except PlacedFault (Part Script)
  | 0, tokens => .error (unexpected tokens)
  | fuel + 1, tokens => do
      let (first, rest) ← negated fuel tokens
      more fuel first rest

/-- Reads on behind a script that may be the left side of a connective. -/
def more : Nat → Script → List PlacedToken → Except PlacedFault (Part Script)
  | 0, _, tokens => .error (unexpected tokens)
  | fuel + 1, first, ⟨_, .operator .andIf⟩ :: rest => do
      let (second, rest) ← negated fuel (skipNewlines rest)
      more fuel (.both first second) rest
  | fuel + 1, first, ⟨_, .operator .orIf⟩ :: rest => do
      let (second, rest) ← negated fuel (skipNewlines rest)
      more fuel (.either first second) rest
  | _ + 1, first, rest => .ok (first, rest)

def negated : Nat → List PlacedToken → Except PlacedFault (Part Script)
  | 0, tokens => .error (unexpected tokens)
  | fuel + 1, tokens =>
      if (tokens.head?.map fun t => negates t.token) = some true then do
        let (body, rest) ← piped fuel tokens.tail
        .ok (.negation body, rest)
      else piped fuel tokens

/-- Reads what pipes hold together. -/
def piped : Nat → List PlacedToken → Except PlacedFault (Part Script)
  | 0, tokens => .error (unexpected tokens)
  | fuel + 1, tokens => do
      let (first, rest) ← single fuel tokens
      match rest with
      | ⟨_, .operator .pipe⟩ :: rest =>
          let (second, rest) ← piped fuel (skipNewlines rest)
          .ok (.pipe first second, rest)
      | rest => .ok (first, rest)

/-- Reads one command or one group. -/
def single : Nat → List PlacedToken → Except PlacedFault (Part Script)
  | 0, tokens => .error (unexpected tokens)
  | fuel + 1, ⟨line, .operator .openGroup⟩ :: rest => do
      match ← list true fuel false rest with
      | (body, ⟨_, .operator .closeGroup⟩ :: rest) =>
          let (redirections, rest) ← redirections rest
          .ok (.subshell line body redirections, rest)
      | (_, rest) => .error (faultAt .unclosedGroup rest)
  | _ + 1, tokens =>
      if (tokens.head?.map fun t => negates t.token) = some true then
        .error (unexpected tokens)
      else simpleCommand tokens

end

/-- Reads line after line, as far as there is no fault. -/
def lines : Nat → List PlacedToken → Script × Option PlacedFault
  | 0, _ => (.nothing, none)
  | rounds + 1, tokens =>
      match list false (6 * tokens.length + 6) false tokens with
      | .error fault => (.nothing, some fault)
      | .ok (first, rest) =>
          match rest with
          | ⟨_, .operator .newline⟩ :: rest =>
              let (others, fault) := lines rounds rest
              (first.andThen others, fault)
          | _ => (first, none)

/-- The script that a text holds, and the fault behind it, if there is one. -/
def ofText (text : List Char) : Script × Option PlacedFault :=
  let tokens := Token.place 1 (tokens text)
  lines (tokens.length + 1) tokens

end Script

end CardReboot.Shell
