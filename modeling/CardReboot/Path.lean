import CardReboot.Component

/-!
# Paths and reboot requests

A path leads through named elements, each with keys that pick one instance.
Keys stand in the order of their names and every name at most once.  A path of
one element is written without a slash: some devices take the bare name of a
card where others want the whole path.
-/

namespace CardReboot

/-- One element of a path. -/
structure PathElement where
  name : String
  keys : List (String × String) := []
  deriving DecidableEq, Repr

namespace PathElement

/-- Puts a key at its place among keys in the order of their names, in the
place of an equal one. -/
def insertKey (key value : String) : List (String × String) → List (String × String)
  | [] => [(key, value)]
  | (k, v) :: rest =>
      if key = k then (key, value) :: rest
      else if key < k then (key, value) :: (k, v) :: rest
      else (k, v) :: insertKey key value rest

def withKey (e : PathElement) (key value : String) : PathElement :=
  { e with keys := insertKey key value e.keys }

def text (e : PathElement) : String :=
  e.keys.foldl (fun s k => s ++ "[" ++ k.1 ++ "=" ++ k.2 ++ "]") e.name

end PathElement

structure ComponentPath where
  elements : List PathElement
  deriving DecidableEq, Repr

namespace ComponentPath

/-- The path of a card, or its bare name. -/
def ofComponent (name : String) (nameOnly : Bool) : ComponentPath :=
  if nameOnly then ⟨[⟨name, []⟩]⟩
  else ⟨[⟨"components", []⟩, ⟨"component", [("name", name)]⟩]⟩

def text (p : ComponentPath) : String :=
  match p.elements with
  | [e] => e.text
  | es => es.foldl (fun s e => s ++ "/" ++ e.text) ""

/-- How the path of a card is printed. -/
def spelling (card : String) (nameOnly : Bool) : String :=
  if nameOnly then card else "/components/component[name=" ++ card ++ "]"

theorem text_ofComponent (card : String) (nameOnly : Bool) :
    (ofComponent card nameOnly).text = spelling card nameOnly := by
  cases nameOnly
  · change "" ++ "/" ++ "components" ++ "/" ++
      ("component" ++ "[" ++ "name" ++ "=" ++ card ++ "]") =
        "/components/component[name=" ++ card ++ "]"
    rw [← String.append_assoc, ← String.append_assoc]
    rfl
  · rfl

end ComponentPath

/-- Every reboot that is asked for is a cold one. -/
inductive RebootMethod
  | cold
  deriving DecidableEq, Repr

def RebootMethod.name : RebootMethod → String
  | .cold => "COLD"

/-- Which cards a status query is about; none of them means the chassis. -/
structure StatusRequest where
  paths : List ComponentPath := []
  deriving DecidableEq, Repr

def StatusRequest.isScoped (r : StatusRequest) : Bool := !r.paths.isEmpty

/-- A request to reboot one card. -/
structure RebootTarget where
  component : String
  paths : List ComponentPath
  method : RebootMethod
  deriving DecidableEq, Repr

namespace RebootTarget

def cold (component : String) (nameOnly : Bool) : RebootTarget :=
  ⟨component, [ComponentPath.ofComponent component nameOnly], .cold⟩

/-- The query whether this reboot is over: about its card when the device
takes cards in a query, else about the chassis. -/
def statusRequest (t : RebootTarget) (byCard : Bool) : StatusRequest :=
  if byCard then ⟨t.paths⟩ else ⟨[]⟩

end RebootTarget

/-- One answer to the question whether a reboot is still going on. -/
structure RebootStatus where
  active : Bool
  wait : Option Duration := none
  reason : Option String := none
  count : Option Nat := none
  deriving DecidableEq, Repr

namespace RebootStatus

def ongoing : RebootStatus := { active := true }

def finished : RebootStatus := { active := false }

end RebootStatus

end CardReboot
