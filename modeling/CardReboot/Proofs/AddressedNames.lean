import CardReboot.Proofs.DeviceCommands
import CardReboot.Proofs.Discovery

/-!
# Names that requests address

A name that was found in the path of an update is written back into the paths of requests
and of state queries.  Nothing is escaped there, and still each of these paths holds the
name as its key: no mark comes before the name, and a name that was found has no bracket
that would end the key early.
-/

namespace CardReboot.Tool

open Dialogue

/-- The path holds the name as the key of a card. -/
def Holds (name path : String) : Prop := nameIn? componentMark path = some name

/-! ## Paths of a card -/

/-- The path of a card gives the name back exactly when a key can hold it. -/
theorem holds_ofComponent_iff {name : String} :
    Holds name (ComponentPath.ofComponent name false).text ↔ IsKey name := by
  rw [ComponentPath.text_ofComponent]
  exact (writtenAround_spelling name).nameIn?_eq_some_iff

theorem holds_statePath_iff {name leaf : String} :
    Holds name (statePath name leaf) ↔ IsKey name :=
  (writtenAround_statePath name leaf).nameIn?_eq_some_iff

theorem enclosed_injective (front back : String) :
    Function.Injective fun name => front ++ name ++ back := by
  intro name other hsame
  have htexts := congrArg String.toList hsame
  have hnames : name.toList = other.toList := by simpa using htexts
  exact String.toList_inj.mp hnames

theorem statePath_eq_enclosed (name leaf : String) :
    statePath name leaf = "/components/component[name=" ++ name ++ ("]/state/" ++ leaf) :=
  String.append_assoc

theorem text_ofComponent_injective (nameOnly : Bool) :
    Function.Injective fun name => (ComponentPath.ofComponent name nameOnly).text := by
  intro name other hsame
  simp only [ComponentPath.text_ofComponent] at hsame
  cases nameOnly with
  | true => exact hsame
  | false => exact enclosed_injective _ _ hsame

theorem statePath_injective (leaf : String) :
    Function.Injective fun name => statePath name leaf := by
  intro name other hsame
  simp only [statePath_eq_enclosed] at hsame
  exact enclosed_injective _ _ hsame

/-! ## Names that were found -/

/-- A query for cards finds names that keys can hold, whatever the host answers. -/
theorem isKey_of_run_readComponentNames
    {σ : Type} {t : Target} {r : Responder host σ} {state : σ} {type : ComponentType}
    {names : List String} (hfound : ((readComponentNames t type).run r state).1 = .ok names)
    {name : String} (hmem : name ∈ names) : IsKey name := by
  rw [readComponentNames_eq, run_gather] at hfound
  cases hread : valuesRead typePath (r.reply (.run (getCommand t typePath)) state).1 with
  | error e =>
      rw [hread] at hfound
      cases hfound
  | ok updates =>
      rw [hread] at hfound
      obtain rfl : componentNames type updates = names := Except.ok.inj hfound
      have htold := (listsInOrder_componentNames type updates).mem_iff name
      obtain ⟨u, -, hcard⟩ := htold.mp hmem
      exact isKey_of_nameIn? (nameIn?_eq_some_iff.mpr hcard.key)

/-! ## The queries of a read -/

/-- Whenever the read succeeds, these paths were queried, in this order. -/
def Queries {α : Type} (t : Target) (paths : List String) (d : Dialogue host (Answered α)) :
    Prop :=
  ∀ transcript a, d.Produces transcript (.ok a) →
    transcript.questions = paths.map fun path => .run (getCommand t path)

theorem queries_done
    {α : Type} (t : Target) (answer : Answered α) : Queries t [] (.done answer) := by
  intro transcript a hproduces
  obtain ⟨rfl, -⟩ := produces_done_iff.mp hproduces
  rfl

/-- A read that goes on with what the query of one path gave, and fails when that one
failed. -/
theorem Queries.cons
    {α β : Type} {t : Target} {path : String} {rest : List String}
    {d : Dialogue host (Answered α)} {f : Answered α → Dialogue host (Answered β)}
    (hd : Queries t [path] d) (herror : ∀ e, f (.error e) = .done (.error e))
    (hok : ∀ a, Queries t rest (f (.ok a))) : Queries t (path :: rest) (d >>= f) := by
  intro transcript b hproduces
  obtain ⟨before, after, answer, rfl, hbefore, hafter⟩ := produces_bind_iff.mp hproduces
  cases answer with
  | error e =>
      rw [herror e] at hafter
      cases (produces_done_iff.mp hafter).2
  | ok a =>
      rw [Transcript.questions_append, hd before a hbefore, hok a after b hafter]
      rfl

theorem queries_get (t : Target) (path : String) : Queries t [path] (get t path) := by
  intro transcript updates hproduces
  obtain ⟨process, rfl, -⟩ := get_produces_iff.mp hproduces
  rfl

theorem queries_leaf (t : Target) (path : String) : Queries t [path] (leaf t path) := by
  unfold leaf
  exact (queries_get t path).cons (fun _ => rfl) fun _ => queries_done t _

/-- The leaves of a card's state that are read. -/
def stateLeaves : List String := ["removable", "empty", "redundant-role", "oper-status"]

theorem queries_readComponentState (t : Target) (name : String) :
    Queries t (stateLeaves.map (statePath name)) (readComponentState t name) := by
  have hleaf := fun leaf => queries_leaf t (statePath name leaf)
  unfold readComponentState
  refine (hleaf "removable").cons (fun _ => rfl) fun removable => ?_
  refine (hleaf "empty").cons (fun _ => rfl) fun empty => ?_
  refine (hleaf "redundant-role").cons (fun _ => rfl) fun role => ?_
  exact (hleaf "oper-status").cons (fun _ => rfl) fun status => queries_done t _

/-- Every path about the card holds its name: the one of a reboot request and of a status
query, those of its four leaves, and every path that is asked for when they are read.  A
read that succeeds has asked for exactly the four. -/
structure Addressed (t : Target) (name : String) : Prop where
  reboot : ∃ path, (RebootTarget.cold name false).paths.map ComponentPath.text = [path] ∧
    Holds name path
  status : ∃ path,
    ((RebootTarget.cold name false).statusRequest true).paths.map ComponentPath.text = [path] ∧
      Holds name path
  leaves : ∀ leaf ∈ stateLeaves, Holds name (statePath name leaf)
  queries : ∀ transcript answer, (readComponentState t name).Produces transcript answer →
    ∀ asked ∈ transcript.questions, ∃ path, asked = .run (getCommand t path) ∧ Holds name path
  reads : Queries t (stateLeaves.map (statePath name)) (readComponentState t name)

theorem invocations_componentState (name : String) :
    invocations (.componentState name) =
      stateLeaves.map fun leaf => .get (statePath name leaf) := rfl

theorem addressed_of_isKey (t : Target) {name : String} (hname : IsKey name) :
    Addressed t name := by
  have hpath : Holds name (ComponentPath.ofComponent name false).text :=
    holds_ofComponent_iff.mpr hname
  constructor
  · exact ⟨_, rfl, hpath⟩
  · exact ⟨_, rfl, hpath⟩
  · intro leaf _
    exact holds_statePath_iff.mpr hname
  · intro transcript answer hproduces asked hasked
    obtain ⟨exchange, hexchange, rfl⟩ := List.mem_map.mp hasked
    have hcall := (callsOnly_readComponentState name transcript answer hproduces).1 exchange
      hexchange
    cases hquestion : exchange.question with
    | pause d =>
        rw [hquestion] at hcall
        exact hcall.elim
    | run command =>
        rw [hquestion] at hcall
        obtain ⟨call, hmem, hcommand⟩ := hcall
        rw [invocations_componentState] at hmem
        obtain ⟨leaf, -, rfl⟩ := List.mem_map.mp hmem
        exact ⟨statePath name leaf, congrArg HostRequest.run hcommand,
          holds_statePath_iff.mpr hname⟩
  · exact queries_readComponentState t name

/-- The card of every name that was found is addressed by it.  The path of a card gives back
just the names that keys can hold, and paths of different cards are different. -/
theorem found_names_addressed (t : Target) :
    (∀ (σ : Type) (r : Responder host σ) state type names,
      ((readComponentNames t type).run r state).1 = .ok names →
        ∀ name ∈ names, Addressed t name) ∧
    (∀ name, nameIn? componentMark (ComponentPath.ofComponent name false).text = some name ↔
      name ≠ "" ∧ ']' ∉ name.toList) ∧
    (∀ nameOnly, Function.Injective fun name =>
      (ComponentPath.ofComponent name nameOnly).text) ∧
    ∀ leaf, Function.Injective fun name => statePath name leaf := by
  refine ⟨?_, fun name => holds_ofComponent_iff, text_ofComponent_injective,
    statePath_injective⟩
  intro σ r state type names hfound name hmem
  exact addressed_of_isKey t (isKey_of_run_readComponentNames hfound hmem)

/-- The output about one fabric card that has the mark in its name. -/
def markedOutput : String :=
  "[\x7b\"updates\":[\x7b\"Path\":\"component[name=component[name=x]\"," ++
    "\"values\":\x7b\"type\":\"FABRIC\"\x7d\x7d]\x7d]"

/-- A host where every command prints this output. -/
def markedHost : Responder host Unit where
  reply
    | .run _, state => (.ok ⟨0, markedOutput, ""⟩, state)
    | .pause _, state => ((), state)

theorem markedHost_addressed :
    ((readComponentNames {} .fabric).run markedHost ()).1 = .ok ["component[name=x"] ∧
      Addressed {} "component[name=x" := by
  have hparse : Json.parse (Text.trim markedOutput.toList) =
      .ok (listing [("component[name=x", .fabric)] []) := by cbv
  have hlists := (tellsTypes_listing [("component[name=x", .fabric)] []).listsInOrder
    (by simp [IsKey]) .fabric
  have hfinds := findsCards_of_decode (t := {}) .fabric (decode_of_parse typePath hparse)
  rw [hlists.eq_singleton "component[name=x" (by simp)] at hfinds
  have hfound := hfinds Unit markedHost () "" rfl
  exact ⟨hfound, (found_names_addressed {}).1 Unit markedHost () .fabric _ hfound _
    List.mem_cons_self⟩

end CardReboot.Tool
