import CardReboot.Text.Octets

/-!
# Where and why reading JSON stops

A fault is reported with the line and the column of the octet at which reading
stopped.  Columns count octets from the last line feed before it.
-/

namespace CardReboot

inductive JsonFault
  | endInList
  | endInObject
  | endInString
  | endInValue
  | expectedColon
  | expectedListEnd
  | expectedObjectEnd
  | expectedWord
  | expectedValue
  | invalidEscape
  | invalidNumber
  | numberOutOfRange
  | controlCharacter
  | keyIsNoString
  | loneSurrogate
  | trailingComma
  | trailingCharacters
  | endOfSurrogates
  | tooDeep
  deriving DecidableEq, Repr

namespace JsonFault

def reason : JsonFault → String
  | endInList => "EOF while parsing a list"
  | endInObject => "EOF while parsing an object"
  | endInString => "EOF while parsing a string"
  | endInValue => "EOF while parsing a value"
  | expectedColon => "expected `:`"
  | expectedListEnd => "expected `,` or `]`"
  | expectedObjectEnd => "expected `,` or `\x7d`"
  | expectedWord => "expected ident"
  | expectedValue => "expected value"
  | invalidEscape => "invalid escape"
  | invalidNumber => "invalid number"
  | numberOutOfRange => "number out of range"
  | controlCharacter =>
      "control character (\\u0000-\\u001F) found while parsing a string"
  | keyIsNoString => "key must be a string"
  | loneSurrogate => "lone leading surrogate in hex escape"
  | trailingComma => "trailing comma"
  | trailingCharacters => "trailing characters"
  | endOfSurrogates => "unexpected end of hex escape"
  | tooDeep => "recursion limit exceeded"

end JsonFault

/-- A fault, what of the text was left then, and how many octets of that had
been looked at already. -/
structure JsonStop where
  fault : JsonFault
  left : List Char
  seen : Nat
  deriving DecidableEq, Repr

namespace JsonStop

/-- The octets of `text` up to the one at which reading stopped. -/
def before (stop : JsonStop) (text : List Char) : Text.Octets :=
  let octets := Text.encode text
  octets.take (octets.length - (Text.encode stop.left).length + stop.seen)

def lineFeed : UInt8 := 10

def line (stop : JsonStop) (text : List Char) : Nat :=
  (stop.before text).count lineFeed + 1

def column (stop : JsonStop) (text : List Char) : Nat :=
  ((stop.before text).reverse.takeWhile (· != lineFeed)).length

def message (stop : JsonStop) (text : List Char) : String :=
  stop.fault.reason ++ " at line " ++ (stop.line text).repr ++ " column " ++
    (stop.column text).repr

end JsonStop

end CardReboot
