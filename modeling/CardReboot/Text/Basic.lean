/-!
# Texts as lists of characters

Splitting a text into lines or at a separator, looking for one text inside
another, and putting texts together.  Lines end at a line feed; a carriage
return right before it belongs to the ending, and the last line may lack its
ending.
-/

namespace CardReboot.Text

/-- The lines of a text, without their endings. -/
def lines : List Char → List (List Char)
  | [] => []
  | '\r' :: '\n' :: rest => [] :: lines rest
  | c :: rest =>
      if c = '\n' then [] :: lines rest
      else match lines rest with
        | [] => [[c]]
        | line :: more => (c :: line) :: more

/-- What follows the last `separator`, or the whole text without one. -/
def afterLast (separator : Char) (text : List Char) : List Char :=
  (text.reverse.takeWhile (· != separator)).reverse

/-- What precedes the last `separator`, if there is one. -/
def beforeLast? (separator : Char) (text : List Char) : Option (List Char) :=
  match text.reverse.dropWhile (· != separator) with
  | [] => none
  | _ :: rest => some rest.reverse

/-- Whether `needle` occurs in the text as one unbroken piece. -/
def occursIn (needle : List Char) : List Char → Bool
  | [] => needle.isEmpty
  | c :: rest => needle.isPrefixOf (c :: rest) || occursIn needle rest

end CardReboot.Text

namespace CardReboot

/-- Whether `needle` occurs in `text`. -/
def mentions (text needle : String) : Bool :=
  Text.occursIn needle.toList text.toList

/-- The last of the parts that colons set apart: an identity without the name
of the module that declares it. -/
def identityPart (text : String) : String :=
  String.ofList (Text.afterLast ':' text.toList)

end CardReboot
