import CardReboot.Text.Printable

/-!
# Quoted texts

A text shown inside a message stands between double quotes.  The quote and the
backslash get a backslash before them, the usual control characters have a
letter of their own, and what has no shape of its own or would melt into the
character before it is written as its code point in braces.
-/

namespace CardReboot.Text

/-- The code point in braces, in small hexadecimal digits. -/
def codePointEscape (c : Char) : List Char :=
  ['\\', 'u', '\x7b'] ++ Nat.toDigits 16 c.toNat ++ ['\x7d']

def quoteChar (c : Char) : List Char :=
  if c.toNat = 0 then ['\\', '0']
  else if c = '\t' then ['\\', 't']
  else if c = '\r' then ['\\', 'r']
  else if c = '\n' then ['\\', 'n']
  else if c = '\\' then ['\\', '\\']
  else if c = '"' then ['\\', '"']
  else if isPlain c then [c]
  else codePointEscape c

def quote (text : List Char) : List Char :=
  '"' :: text.flatMap quoteChar ++ ['"']

end CardReboot.Text

namespace CardReboot

/-- The text between double quotes, with what needs it escaped. -/
def quoted (text : String) : String :=
  String.ofList (Text.quote text.toList)

/-- Quoted texts in brackets, set apart by a comma and a space. -/
def quotedList (texts : List String) : String :=
  "[" ++ ", ".intercalate (texts.map quoted) ++ "]"

end CardReboot
