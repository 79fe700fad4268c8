import CardReboot.Proofs.JsonReading

/-!
# The order of members

The members of an object stand in the order of their names, each name once, however they
were written, and members that are in order already stay as they are.  So every value that a
text writes keeps this order at every level, and has no more levels than the text.
-/

namespace CardReboot.Json

/-- The names increase from each member to the next. -/
def Ascending (members : List (String × Json)) : Prop :=
  members.Pairwise fun m other => m.1 < other.1

@[simp] theorem ascending_nil : Ascending [] := .nil

@[simp] theorem ascending_singleton (m : String × Json) : Ascending [m] :=
  List.pairwise_singleton _ m

theorem ascending_pair {name other : String} (hless : name < other) (value value' : Json) :
    Ascending [(name, value), (other, value')] :=
  List.pairwise_pair.mpr hless

/-- The value has at most so many levels of lists and objects, the members of its objects are
in order, and all its numbers are of one kind. -/
inductive IsWithin (fits : JsonNumber → Prop) : Nat → Json → Prop
  | null {depth : Nat} : IsWithin fits depth .null
  | bool {depth : Nat} (b : Bool) : IsWithin fits depth (.bool b)
  | number {depth : Nat} {n : JsonNumber} (hfits : fits n) : IsWithin fits depth (.number n)
  | string {depth : Nat} (s : String) : IsWithin fits depth (.string s)
  | array {depth : Nat} {items : List Json} (hitems : ∀ v ∈ items, IsWithin fits depth v) :
      IsWithin fits (depth + 1) (.array items)
  | object {depth : Nat} {members : List (String × Json)} (hascending : Ascending members)
      (hmembers : ∀ m ∈ members, IsWithin fits depth m.2) :
      IsWithin fits (depth + 1) (.object members)

attribute [simp] IsWithin.null IsWithin.bool IsWithin.string

section Levels

variable {fits fits' : JsonNumber → Prop} {depth : Nat}

@[simp] theorem isWithin_number_iff {n : JsonNumber} :
    IsWithin fits depth (.number n) ↔ fits n := by
  constructor
  · intro hnumber
    cases hnumber with
    | number hn => exact hn
  · exact .number

@[simp] theorem isWithin_array_iff {items : List Json} :
    IsWithin fits (depth + 1) (.array items) ↔ ∀ v ∈ items, IsWithin fits depth v := by
  constructor
  · intro hlist
    cases hlist with
    | array hitems => exact hitems
  · exact .array

@[simp] theorem isWithin_object_iff {members : List (String × Json)} :
    IsWithin fits (depth + 1) (.object members) ↔
      Ascending members ∧ ∀ m ∈ members, IsWithin fits depth m.2 := by
  constructor
  · intro hobject
    cases hobject with
    | object hascending hmembers => exact ⟨hascending, hmembers⟩
  · intro hparts
    exact .object hparts.1 hparts.2

theorem IsWithin.mono {v : Json} (hv : IsWithin fits depth v) (hfits : ∀ n, fits n → fits' n) :
    IsWithin fits' depth v := by
  induction hv with
  | null => exact .null
  | bool b => exact .bool b
  | number hn => exact .number (hfits _ hn)
  | string s => exact .string s
  | array _ ih => exact .array ih
  | object hascending _ ih => exact .object hascending ih

theorem IsWithin.of_append {items others : List Json}
    (hlist : IsWithin fits depth (.array (items ++ others))) :
    IsWithin fits depth (.array items) ∧ IsWithin fits depth (.array others) := by
  cases hlist with
  | array hall =>
      obtain ⟨hitems, hothers⟩ := List.forall_mem_append.mp hall
      exact ⟨.array hitems, .array hothers⟩

end Levels

variable {name : String} {value : Json} {m : String × Json} {members : List (String × Json)}

/-! ## Putting a member at its place -/

theorem mem_of_mem_insertMember (hm : m ∈ insertMember name value members) :
    m = (name, value) ∨ m ∈ members := by
  induction members with
  | nil => exact .inl (List.mem_singleton.mp hm)
  | cons first rest ih =>
      rw [insertMember] at hm
      split at hm
      · exact (List.mem_cons.mp hm).imp id (List.mem_cons_of_mem first)
      · split at hm
        · exact List.mem_cons.mp hm
        · rcases List.mem_cons.mp hm with rfl | hm
          · exact .inr List.mem_cons_self
          · exact (ih hm).imp id (List.mem_cons_of_mem first)

theorem ascending_insertMember (hmembers : Ascending members) :
    Ascending (insertMember name value members) := by
  induction members with
  | nil => exact List.pairwise_singleton _ _
  | cons first rest ih =>
      obtain ⟨hfirst, hrest⟩ := List.pairwise_cons.mp hmembers
      rw [insertMember]
      split
      next hequal =>
        apply List.pairwise_cons.mpr
        exact ⟨fun other hother => hequal ▸ hfirst other hother, hrest⟩
      next hequal =>
        split
        next hless =>
          apply List.pairwise_cons.mpr
          refine ⟨?_, hmembers⟩
          intro other hother
          rcases List.mem_cons.mp hother with rfl | hother
          · exact hless
          · exact String.lt_trans hless (hfirst other hother)
        next hless =>
          have hgreater : first.1 < name :=
            Std.lt_of_le_of_ne (String.not_lt.mp hless) fun e => hequal e.symm
          apply List.pairwise_cons.mpr
          refine ⟨?_, ih hrest⟩
          intro other hother
          rcases mem_of_mem_insertMember hother with rfl | hother
          · exact hgreater
          · exact hfirst other hother

theorem insertMember_of_last (hlast : ∀ other ∈ members, other.1 < name) :
    insertMember name value members = members ++ [(name, value)] := by
  induction members with
  | nil => rfl
  | cons first rest ih =>
      obtain ⟨hfirst, hrest⟩ := List.forall_mem_cons.mp hlast
      have hne : name ≠ first.1 := fun hsame => String.lt_irrefl _ (hsame ▸ hfirst)
      have hnot : ¬ name < first.1 := fun hless => String.lt_irrefl _ (String.lt_trans hless hfirst)
      rw [insertMember, if_neg hne, if_neg hnot, ih hrest, List.cons_append]

/-! ## Objects -/

/-- The members found so far with those of a text put at their places. -/
def gather (found members : List (String × Json)) : List (String × Json) :=
  members.foldl (fun sorted m => insertMember m.1 m.2 sorted) found

theorem mem_of_mem_gather {found : List (String × Json)} (hm : m ∈ gather found members) :
    m ∈ found ∨ m ∈ members := by
  induction members generalizing found with
  | nil => exact .inl hm
  | cons first rest ih =>
      rcases ih hm with hfound | hrest
      · rcases mem_of_mem_insertMember hfound with rfl | hfound
        · exact .inr List.mem_cons_self
        · exact .inl hfound
      · exact .inr (List.mem_cons_of_mem first hrest)

theorem ascending_gather {found : List (String × Json)} (hfound : Ascending found) :
    Ascending (gather found members) := by
  induction members generalizing found with
  | nil => exact hfound
  | cons first rest ih => exact ih (ascending_insertMember hfound)

theorem gather_of_ascending {found : List (String × Json)}
    (hmembers : Ascending (found ++ members)) : gather found members = found ++ members := by
  induction members generalizing found with
  | nil => simp [gather]
  | cons first rest ih =>
      have hlast : ∀ other ∈ found, other.1 < first.1 := by
        intro other hother
        exact (List.pairwise_append.mp hmembers).2.2 other hother first List.mem_cons_self
      have hmore : Ascending ((found ++ [first]) ++ rest) := by simpa using hmembers
      calc
        gather found (first :: rest) = gather (insertMember first.1 first.2 found) rest := rfl
        _ = gather (found ++ [first]) rest := by rw [insertMember_of_last hlast]
        _ = found ++ first :: rest := by simpa using ih hmore

theorem ofMembers_eq (members : List (String × Json)) :
    ofMembers members = .object (gather [] members) := rfl

theorem ofMembers_of_ascending (hmembers : Ascending members) :
    ofMembers members = .object members := by
  have hgather : gather [] members = [] ++ members := gather_of_ascending hmembers
  rw [ofMembers_eq, hgather, List.nil_append]

theorem isWithin_ofMembers
    {fits : JsonNumber → Prop} {depth : Nat} (hmembers : ∀ m ∈ members, IsWithin fits depth m.2) :
    IsWithin fits (depth + 1) (ofMembers members) := by
  rw [ofMembers_eq]
  refine .object (ascending_gather .nil) ?_
  intro m hm
  rcases mem_of_mem_gather hm with hm | hm
  · cases hm
  · exact hmembers m hm

/-! ## Looking members up -/

/-- In order, no other member of the name stands before a member. -/
theorem lookup_eq_some_iff (hmembers : Ascending members) :
    members.lookup name = some value ↔ (name, value) ∈ members := by
  rw [List.lookup_eq_some_iff]
  constructor
  · intro hfound
    obtain ⟨front, back, rfl, -⟩ := hfound
    exact List.mem_append_right _ List.mem_cons_self
  · intro hmem
    obtain ⟨front, back, rfl⟩ := List.append_of_mem hmem
    refine ⟨front, back, rfl, ?_⟩
    intro other hother
    have hless : other.1 < name :=
      (List.pairwise_append.mp hmembers).2.2 other hother _ List.mem_cons_self
    exact bne_iff_ne.mpr fun hsame => String.lt_irrefl _ (hsame ▸ hless)

/-! ## What a text writes -/

/-- What the piece holds is within so many levels. -/
def PieceIsWithin (depth : Nat) : JsonReader.JsonPiece → Prop
  | .value v => IsWithin (fun _ => True) depth v
  | .items _ items => ∀ v ∈ items, IsWithin (fun _ => True) depth v
  | .members _ members => ∀ m ∈ members, IsWithin (fun _ => True) depth m.2

theorem pieceIsWithin_of_writes
    {depth : Nat} {piece : JsonReader.JsonPiece} {text : List Char}
    (hwrites : JsonReader.Writes depth piece text) : PieceIsWithin depth piece := by
  induction hwrites with
  | null => exact .null
  | yes => exact .bool true
  | no => exact .bool false
  | number => exact .number trivial
  | string => exact .string _
  | array _ ih => exact .array ih
  | object _ ih => exact isWithin_ofMembers ih
  | noItem => exact List.forall_mem_nil _
  | item _ _ _ ihvalue ihmore => exact List.forall_mem_cons.mpr ⟨ihvalue, ihmore⟩
  | noMember => exact List.forall_mem_nil _
  | member _ _ _ _ _ _ ihvalue ihmore => exact List.forall_mem_cons.mpr ⟨ihvalue, ihmore⟩

/-- Every value that a text writes has its members in order, and no more levels than it may. -/
theorem isWithin_of_writes
    {depth : Nat} {v : Json} {text : List Char}
    (hwrites : JsonReader.Writes depth (.value v) text) : IsWithin (fun _ => True) depth v :=
  pieceIsWithin_of_writes hwrites

end CardReboot.Json
