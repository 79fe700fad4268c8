import CardReboot.Number.Notation

/-!
# JSON values

A number keeps whether it was written as a whole number: whole numbers are exact
within sixty-four bits, all others are magnitudes with a sign.  The members of
an object stand in the order of their names, each name once.
-/

namespace CardReboot

inductive JsonNumber
  | natural (n : Nat)
  /-- The number below zero with this absolute value. -/
  | negative (n : Nat)
  | fraction (negative : Bool) (magnitude : Magnitude)
  deriving DecidableEq, Repr

namespace JsonNumber

def text : JsonNumber → String
  | natural n => n.repr
  | negative n => "-" ++ n.repr
  | fraction true m => "-" ++ m.text
  | fraction false m => m.text

def toNat? : JsonNumber → Option Nat
  | natural n => some n
  | _ => none

end JsonNumber

inductive Json
  | null
  | bool (b : Bool)
  | number (n : JsonNumber)
  | string (s : String)
  | array (items : List Json)
  | object (members : List (String × Json))

namespace Json

/-- Puts a member at its place, over one of the same name. -/
def insertMember (name : String) (value : Json) : List (String × Json) → List (String × Json)
  | [] => [(name, value)]
  | (n, v) :: rest =>
      if name = n then (name, value) :: rest
      else if name < n then (name, value) :: (n, v) :: rest
      else (n, v) :: insertMember name value rest

/-- The object with these members; of a repeated name the last one stays. -/
def ofMembers (members : List (String × Json)) : Json :=
  .object (members.foldl (fun sorted m => insertMember m.1 m.2 sorted) [])

def members? : Json → Option (List (String × Json))
  | object members => some members
  | _ => none

/-- The member of this name; nothing when the value is no object. -/
def member? (j : Json) (name : String) : Option Json := do
  (← j.members?).lookup name

def items? : Json → Option (List Json)
  | array items => some items
  | _ => none

def string? : Json → Option String
  | string s => some s
  | _ => none

def bool? : Json → Option Bool
  | bool b => some b
  | _ => none

def nat? : Json → Option Nat
  | number n => n.toNat?
  | _ => none

def isObject (j : Json) : Bool := j.members?.isSome

end Json

end CardReboot
