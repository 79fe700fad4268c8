import CardReboot.Component
import CardReboot.Failure
import CardReboot.Json.Reader
import CardReboot.Names
import CardReboot.Text.CharSet
import CardReboot.Text.Numeral

/-!
# State updates

State is reported as notifications with updates in them, and an update holds
values under their paths.  Its own path, if it has one, stands for the paths of
all its values.  Parts of another shape contribute nothing and do not disturb
their neighbours.  The cards and interfaces that updates are about are named in
their paths.
-/

namespace CardReboot.Tool

/-- A value under its path. -/
structure Update where
  path : String
  value : Json

namespace Update

/-- The values of one update. -/
def ofEntry (entry : Json) : List Update :=
  let own := ((entry.member? "Path").bind Json.string?).getD ""
  match (entry.member? "values").bind Json.members? with
  | some leaves => leaves.map fun leaf => ⟨if own = "" then leaf.1 else own, leaf.2⟩
  | none => []

/-- The values of one notification. -/
def ofNotification (notification : Json) : List Update :=
  match (notification.member? "updates").bind Json.items? with
  | some entries => entries.flatMap ofEntry
  | none => []

/-- The values of a list of notifications, or of a single one. -/
def ofJson : Json → List Update
  | .array notifications => notifications.flatMap ofNotification
  | notification => ofNotification notification

/-- Reads the values in an output about `path`. -/
def decode (path output : String) : Answered (List Update) :=
  match Json.parse (Text.trim output.toList) with
  | .ok value => .ok (ofJson value)
  | .error reason => .error (.decode path reason)

/-- The text of a value: no value has one that is a list, an object or nothing. -/
def text? : Json → Option String
  | .string s => some s
  | .number n => some n.text
  | .bool true => some "true"
  | .bool false => some "false"
  | _ => none

/-- The truth of a value, also when it is written as a text. -/
def flag? : Json → Option Bool
  | .bool b => some b
  | .string "true" => some true
  | .string "false" => some false
  | _ => none

/-- The number that a counter is, also when it is written as a text. -/
def counter? : Json → Option Nat
  | .number n => n.toNat?
  | .string s => (Numeral.read Numeral.word64 s.toList).toOption
  | _ => none

end Update

/-- The key behind a mark at the start of the text: what precedes the next
bracket that closes, if anything does. -/
def keyAt? (mark text : List Char) : Option (List Char) :=
  let key := (text.drop mark.length).takeWhile (· != ']')
  if mark.isPrefixOf text && !key.isEmpty && key.length + mark.length < text.length then
    some key
  else none

/-- The key behind the first mark that has one. -/
def firstKey? (mark : List Char) : List Char → Option (List Char)
  | [] => none
  | c :: rest =>
      match keyAt? mark (c :: rest) with
      | some key => some key
      | none => firstKey? mark rest

def componentMark : String := "component[name="

def interfaceMark : String := "interface[name="

/-- The name that a path holds behind a mark. -/
def nameIn? (mark path : String) : Option String :=
  String.ofList <$> firstKey? mark.toList path.toList

/-- The names of the cards of one type. -/
def componentNames (type : ComponentType) (updates : List Update) : List String :=
  let isOfType (u : Update) : Bool :=
    match (Update.text? u.value).map ComponentType.parse with
    | some (.ok t) => t == type
    | _ => false
  distinctNames ((updates.filter isOfType).filterMap fun u => nameIn? componentMark u.path)

/-- The names of the interfaces: each from its path, else the value itself. -/
def interfaceNames (updates : List Update) : List String :=
  distinctNames (updates.filterMap fun u =>
    match nameIn? interfaceMark u.path with
    | some name => some name
    | none => Update.text? u.value)

end CardReboot.Tool
