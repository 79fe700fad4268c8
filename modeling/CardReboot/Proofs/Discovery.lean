import CardReboot.Proofs.OctetOrder
import CardReboot.Proofs.PathKeys
import CardReboot.Proofs.QueryFault
import Mathlib.Data.List.Sort

/-!
# Discovery

The cards of one type and the interfaces are read off the updates that a query prints.
What is found depends on which updates there are, not on their order, on how often one is
repeated or on the notifications that they stand in; and where the output has one update
for each card, with the card's key in the path of the update or in the name of its leaf,
the cards that are found are those of the type.
-/

namespace CardReboot

/-! ## Identities -/

theorem Text.afterLast_eq_iff
    {separator : Char} {text part : List Char} (hfree : separator ∉ part) :
    Text.afterLast separator text = part ↔
      text = part ∨ ∃ front, text = front ++ separator :: part := by
  have hreversed : separator ∉ part.reverse := by simpa using hfree
  -- Read from its end, the text begins with the part and goes on with a separator, if at all.
  constructor
  · intro hpart
    have htake : text.reverse.takeWhile (· != separator) = part.reverse := by
      rw [← hpart, afterLast, List.reverse_reverse]
    rcases Nat.lt_or_ge part.length text.length with hshort | hwhole
    · have hlength : (text.reverse.takeWhile (· != separator)).length < text.reverse.length := by
        simpa [htake] using hshort
      obtain ⟨after, hsplit⟩ := exists_separator_of_takeWhile hlength
      right
      refine ⟨after.reverse, ?_⟩
      rw [htake] at hsplit
      have hback := congrArg List.reverse hsplit
      simpa using hback
    · left
      have hbegins : part.reverse <+: text.reverse := by
        rw [← htake]
        exact List.takeWhile_prefix _
      have hall := hbegins.eq_of_length_le (by simpa using hwhole)
      exact (List.reverse_inj.mp hall).symm
  · intro hshape
    rw [afterLast, List.reverse_eq_iff]
    rcases hshape with rfl | ⟨front, rfl⟩
    · rw [← List.append_nil text.reverse, List.takeWhile_append_of_pos (bne_of_free hreversed)]
      rfl
    · rw [List.reverse_append, List.reverse_cons, List.append_assoc, List.singleton_append]
      exact takeWhile_part hreversed front.reverse

/-- The text is the identity, alone or behind the name of a module and a colon. -/
def Identifies (identity text : String) : Prop :=
  text = identity ∨ ∃ module, text = module ++ ":" ++ identity

theorem identityPart_eq_iff {identity text : String} (hfree : ':' ∉ identity.toList) :
    identityPart text = identity ↔ Identifies identity text := by
  have hpart : identityPart text = identity ↔
      Text.afterLast ':' text.toList = identity.toList := by
    rw [identityPart, ← String.toList_inj, String.toList_ofList]
  rw [hpart, Text.afterLast_eq_iff hfree, Identifies, String.toList_inj]
  apply or_congr_right
  constructor
  · intro hfront
    obtain ⟨front, htext⟩ := hfront
    refine ⟨String.ofList front, String.toList_inj.mp ?_⟩
    simpa using htext
  · intro hmodule
    obtain ⟨module, rfl⟩ := hmodule
    exact ⟨module.toList, by simp⟩

theorem ComponentType.parse_eq_ok_iff {text : String} {type : ComponentType} :
    parse text = .ok type ↔ Identifies type.name text := by
  have hfree : ':' ∉ type.name.toList := by cases type <;> decide
  rw [← identityPart_eq_iff hfree]
  unfold parse
  split
  next hidentity => cases type <;> simp [hidentity, name]
  next hidentity => cases type <;> simp [hidentity, name]
  next hidentity => cases type <;> simp [hidentity, name]
  next hcontroller hlinecard hfabric =>
    cases type
    · simpa [name] using hcontroller
    · simpa [name] using hlinecard
    · simpa [name] using hfabric

theorem Identifies.type_unique {type type' : ComponentType} {text : String}
    (htype : Identifies type.name text) (htype' : Identifies type'.name text) :
    type = type' := by
  have hparse := ComponentType.parse_eq_ok_iff.mpr htype
  rw [ComponentType.parse_eq_ok_iff.mpr htype'] at hparse
  exact (Except.ok.inj hparse).symm

/-! ## Names in order -/

/-- The names with the property, each once and in the order of their octets. -/
structure ListsInOrder (named : String → Prop) (names : List String) : Prop where
  ascending :
    names.Pairwise fun name other => Text.encode name.toList < Text.encode other.toList
  mem_iff : ∀ name, name ∈ names ↔ named name

theorem listsInOrder_distinctNames {named : String → Prop} {names : List String}
    (hnames : ∀ name, name ∈ names ↔ named name) :
    ListsInOrder named (distinctNames names) where
  ascending := (pairwise_distinctNames names).imp Text.name_lt_iff.mp
  mem_iff name := mem_distinctNames.trans (hnames name)

theorem ListsInOrder.unique {named : String → Prop} {names names' : List String}
    (hnames : ListsInOrder named names) (hnames' : ListsInOrder named names') :
    names = names' := by
  have hirrefl : Std.Irrefl fun name other : String =>
      Text.encode name.toList < Text.encode other.toList := ⟨fun _ => List.lt_irrefl _⟩
  have hantisymm : Std.Antisymm fun name other : String =>
      Text.encode name.toList < Text.encode other.toList :=
    ⟨fun _ _ hless hgreater => absurd hgreater (List.lt_asymm hless)⟩
  apply hnames.ascending.eq_of_mem_iff hnames'.ascending
  intro name
  rw [hnames.mem_iff, hnames'.mem_iff]

theorem ListsInOrder.eq_singleton {named : String → Prop} {names : List String}
    (hnames : ListsInOrder named names) (only : String)
    (honly : ∀ name, named name ↔ name = only) : names = [only] :=
  hnames.unique ⟨List.pairwise_singleton _ _, fun name => by simp [honly]⟩

end CardReboot

namespace CardReboot.Tool

/-! ## What an update tells -/

/-- The update tells that the card of this name has the type. -/
structure Update.TellsCard (type : ComponentType) (name : String) (u : Update) : Prop where
  key : IsFirstKey componentMark.toList name.toList u.path.toList
  identity : ∃ text, Update.text? u.value = some text ∧ Identifies type.name text

/-- The update names the interface: by the key in its path, or in its value where the path
has no key. -/
def Update.TellsInterface (name : String) (u : Update) : Prop :=
  IsFirstKey interfaceMark.toList name.toList u.path.toList ∨
    (∀ key, ¬ IsFirstKey interfaceMark.toList key u.path.toList) ∧
      Update.text? u.value = some name

theorem nameIn?_eq_none_iff {mark path : String} :
    nameIn? mark path = none ↔ ∀ key, ¬ IsFirstKey mark.toList key path.toList := by
  simp only [nameIn?, Option.map_eq_map, Option.map_eq_none_iff, ← firstKey?_eq_some_iff]
  rw [Option.eq_none_iff_forall_ne_some]

theorem listsInOrder_componentNames (type : ComponentType) (updates : List Update) :
    ListsInOrder (fun name => ∃ u ∈ updates, u.TellsCard type name)
      (componentNames type updates) := by
  apply listsInOrder_distinctNames
  intro name
  simp only [List.mem_filterMap, List.mem_filter]
  constructor
  · intro hfound
    obtain ⟨u, ⟨hmem, htype⟩, hname⟩ := hfound
    refine ⟨u, hmem, nameIn?_eq_some_iff.mp hname, ?_⟩
    -- Only an update whose value has a text that reads as the type passes the filter.
    cases htext : Update.text? u.value with
    | none => simp [htext] at htype
    | some text =>
        refine ⟨text, rfl, ComponentType.parse_eq_ok_iff.mp ?_⟩
        cases hparse : ComponentType.parse text with
        | error reason => simp [htext, hparse] at htype
        | ok told =>
            have hsame : told = type := by simpa [htext, hparse] using htype
            rw [hsame]
  · intro htold
    obtain ⟨u, hmem, hkey, text, htext, htype⟩ := htold
    refine ⟨u, ⟨hmem, ?_⟩, nameIn?_eq_some_iff.mpr hkey⟩
    simp [htext, ComponentType.parse_eq_ok_iff.mpr htype]

theorem listsInOrder_interfaceNames (updates : List Update) :
    ListsInOrder (fun name => ∃ u ∈ updates, u.TellsInterface name)
      (interfaceNames updates) := by
  apply listsInOrder_distinctNames
  intro name
  simp only [List.mem_filterMap]
  apply exists_congr
  intro u
  apply and_congr_right
  intro _
  rw [Update.TellsInterface, ← nameIn?_eq_some_iff, ← nameIn?_eq_none_iff]
  cases nameIn? interfaceMark u.path <;> simp

/-! ## What a query answers -/

/-- The query that picks something out of the values under a path. -/
def gather {α : Type} (t : Target) (path : String) (pick : List Update → α) :
    Dialogue host (Answered α) :=
  (get t path).bind fun found => .done (found.map pick)

theorem readComponentNames_eq (t : Target) (type : ComponentType) :
    readComponentNames t type = gather t typePath (componentNames type) := by
  change (get t typePath).bind _ = _
  unfold gather
  congr 1
  funext found
  cases found <;> rfl

theorem readInterfaceNames_eq (t : Target) :
    readInterfaceNames t = gather t interfaceNamePath interfaceNames := by
  change (get t interfaceNamePath).bind _ = _
  unfold gather
  congr 1
  funext found
  cases found <;> rfl

theorem run_gather
    {α σ : Type} (t : Target) (path : String) (pick : List Update → α) (r : Responder host σ)
    (state : σ) :
    ((gather t path pick).run r state).1 =
      (valuesRead path (r.reply (.run (getCommand t path)) state).1).map pick := by
  rw [gather, get_eq]
  rfl

/-- Wherever the command succeeds and prints this output, the query has this answer. -/
def AnswersTo {α : Type} (command output : String) (query : Dialogue host α) (answer : α) :
    Prop :=
  ∀ (σ : Type) (r : Responder host σ) (state : σ) (complaint : String),
    (r.reply (.run command) state).1 = .ok ⟨0, output, complaint⟩ →
      (query.run r state).1 = answer

/-- The names of the cards of the type that are found in the output. -/
def FindsCards (t : Target) (type : ComponentType) (output : String) (names : List String) :
    Prop :=
  AnswersTo (getCommand t typePath) output (readComponentNames t type) (.ok names)

/-- The names of the interfaces that are found in the output. -/
def FindsInterfaces (t : Target) (output : String) (names : List String) : Prop :=
  AnswersTo (getCommand t interfaceNamePath) output (readInterfaceNames t) (.ok names)

section Answers

variable {t : Target} {output : String} {updates : List Update}

theorem answersTo_gather
    {α : Type} {path : String} (pick : List Update → α)
    (hdecode : Update.decode path output = .ok updates) :
    AnswersTo (getCommand t path) output (gather t path pick) (.ok (pick updates)) := by
  intro σ r state complaint hreply
  rw [run_gather, hreply]
  change (Update.decode path output).map pick = _
  rw [hdecode]
  rfl

theorem findsCards_of_decode
    (type : ComponentType) (hdecode : Update.decode typePath output = .ok updates) :
    FindsCards t type output (componentNames type updates) := by
  rw [FindsCards, readComponentNames_eq]
  exact answersTo_gather _ hdecode

theorem findsInterfaces_of_decode
    (hdecode : Update.decode interfaceNamePath output = .ok updates) :
    FindsInterfaces t output (interfaceNames updates) := by
  rw [FindsInterfaces, readInterfaceNames_eq]
  exact answersTo_gather _ hdecode

theorem decode_of_parse
    {value : Json} (path : String) (hparse : Json.parse (Text.trim output.toList) = .ok value) :
    Update.decode path output = .ok (Update.ofJson value) := by
  rw [Update.decode, hparse]

end Answers

/-! ## Updates without their order -/

/-- The notifications of an output, which may be a single one. -/
def notifications : Json → List Json
  | .array items => items
  | single => [single]

/-- The output has the update in one of its notifications. -/
def HasUpdate (value update : Json) : Prop :=
  ∃ notification ∈ notifications value, ∃ updates,
    (notification.member? "updates").bind Json.items? = some updates ∧ update ∈ updates

/-- The outputs have the same updates, in any order, any number of times and in any
notifications. -/
def SameUpdates (value value' : Json) : Prop :=
  ∀ update, HasUpdate value update ↔ HasUpdate value' update

theorem mem_ofNotification_iff {notification : Json} {u : Update} :
    u ∈ Update.ofNotification notification ↔
      ∃ updates, (notification.member? "updates").bind Json.items? = some updates ∧
        ∃ update ∈ updates, u ∈ Update.ofEntry update := by
  unfold Update.ofNotification
  cases (notification.member? "updates").bind Json.items? <;> simp

theorem ofJson_eq (value : Json) :
    Update.ofJson value = (notifications value).flatMap Update.ofNotification := by
  cases value <;> simp [Update.ofJson, notifications]

theorem mem_ofJson_iff {value : Json} {u : Update} :
    u ∈ Update.ofJson value ↔ ∃ update, HasUpdate value update ∧ u ∈ Update.ofEntry update := by
  simp only [ofJson_eq, List.mem_flatMap, mem_ofNotification_iff]
  constructor
  · intro hmem
    obtain ⟨notification, hnotification, updates, hupdates, update, hupdate, hu⟩ := hmem
    exact ⟨update, ⟨notification, hnotification, updates, hupdates, hupdate⟩, hu⟩
  · intro hhas
    obtain ⟨update, ⟨notification, hnotification, updates, hupdates, hupdate⟩, hu⟩ := hhas
    exact ⟨notification, hnotification, updates, hupdates, update, hupdate, hu⟩

theorem SameUpdates.mem_ofJson_iff {value value' : Json} (hsame : SameUpdates value value')
    (u : Update) : u ∈ Update.ofJson value ↔ u ∈ Update.ofJson value' := by
  simp only [Tool.mem_ofJson_iff, hsame _]

/-- What lists the names that the updates tell does not depend on more than they do. -/
theorem SameUpdates.names_eq
    {value value' : Json} (hsame : SameUpdates value value') {told : String → Update → Prop}
    {pick : List Update → List String}
    (hpick : ∀ updates, ListsInOrder (fun name => ∃ u ∈ updates, told name u) (pick updates)) :
    pick (Update.ofJson value) = pick (Update.ofJson value') := by
  have hnames := hpick (Update.ofJson value)
  simp only [hsame.mem_ofJson_iff] at hnames
  exact hnames.unique (hpick _)

/-! ## One update for each card -/

/-- An update about the type of one card, whose name is the key in the path of the update or,
where that is empty, in the name of its leaf. -/
inductive TypeUpdate (name : String) (type : ComponentType) (update : Json) : Prop
  | inPath {path leaf text : String}
      (hpath : update.member? "Path" = some (.string path))
      (hvalues : update.member? "values" = some (.object [(leaf, .string text)]))
      (hkey : WrittenAround componentMark name path) (htype : Identifies type.name text)
  | inLeaf {leaf text : String}
      (hpath : update.member? "Path" = none ∨ update.member? "Path" = some (.string ""))
      (hvalues : update.member? "values" = some (.object [(leaf, .string text)]))
      (hkey : WrittenAround componentMark name leaf) (htype : Identifies type.name text)

/-- The output has one update for each of the cards and no others. -/
structure TellsTypes (cards : List (String × ComponentType)) (value : Json) : Prop where
  each : ∀ card ∈ cards, ∃ update, HasUpdate value update ∧ TypeUpdate card.1 card.2 update
  only : ∀ update, HasUpdate value update → ∃ card ∈ cards, TypeUpdate card.1 card.2 update

theorem ofEntry_typeUpdate
    {name : String} {type : ComponentType} {update : Json} (hname : IsKey name)
    (htells : TypeUpdate name type update) :
    ∃ path text, Update.ofEntry update = [⟨path, .string text⟩] ∧
      nameIn? componentMark path = some name ∧ Identifies type.name text := by
  cases htells with
  | @inPath path leaf text hpath hvalues hkey htype =>
      have hfound := hkey.nameIn?_eq_some_iff.mpr hname
      have hne : path ≠ "" := by
        rintro rfl
        cases hfound
      refine ⟨path, text, ?_, hfound, htype⟩
      simp [Update.ofEntry, hpath, hvalues, Json.members?, Json.string?, hne]
  | @inLeaf leaf text hpath hvalues hkey htype =>
      refine ⟨leaf, text, ?_, hkey.nameIn?_eq_some_iff.mpr hname, htype⟩
      rcases hpath with hpath | hpath <;>
        simp [Update.ofEntry, hpath, hvalues, Json.members?, Json.string?]

theorem TellsTypes.tellsCard_iff
    {cards : List (String × ComponentType)} {value : Json} (htells : TellsTypes cards value)
    (hkeys : ∀ card ∈ cards, IsKey card.1) (name : String) (type : ComponentType) :
    (∃ u ∈ Update.ofJson value, u.TellsCard type name) ↔ (name, type) ∈ cards := by
  constructor
  · intro htold
    obtain ⟨u, hmem, hkey, text, htext, htype⟩ := htold
    obtain ⟨update, hhas, hu⟩ := mem_ofJson_iff.mp hmem
    obtain ⟨card, hcard, hupdate⟩ := htells.only update hhas
    obtain ⟨path, told, hentry, hfound, hidentity⟩ :=
      ofEntry_typeUpdate (hkeys card hcard) hupdate
    rw [hentry] at hu
    obtain rfl := List.mem_singleton.mp hu
    -- The update gives back one name and one type, so the card it tells of is this one.
    have hsamename := (nameIn?_eq_some_iff.mpr hkey).symm.trans hfound
    have hsametext : told = text := Option.some.inj htext
    rw [hsametext] at hidentity
    rw [Option.some.inj hsamename, htype.type_unique hidentity]
    exact hcard
  · intro hcard
    obtain ⟨update, hhas, hupdate⟩ := htells.each _ hcard
    obtain ⟨path, text, hentry, hfound, hidentity⟩ :=
      ofEntry_typeUpdate (hkeys _ hcard) hupdate
    refine ⟨⟨path, .string text⟩, mem_ofJson_iff.mpr ⟨update, hhas, ?_⟩, ?_⟩
    · simp [hentry]
    · exact ⟨nameIn?_eq_some_iff.mp hfound, text, rfl, hidentity⟩

theorem TellsTypes.listsInOrder
    {cards : List (String × ComponentType)} {value : Json} (htells : TellsTypes cards value)
    (hkeys : ∀ card ∈ cards, IsKey card.1) (type : ComponentType) :
    ListsInOrder (fun name => (name, type) ∈ cards)
      (componentNames type (Update.ofJson value)) := by
  have hnames := listsInOrder_componentNames type (Update.ofJson value)
  simpa only [htells.tellsCard_iff hkeys] using hnames

/-! ## Outputs in both layouts -/

/-- The update about a card under the path of its own. -/
def pathUpdate : String × ComponentType → Json
  | (name, type) => .object [("Path", .string (componentMark ++ name ++ "]")),
      ("values", .object [("type", .string type.name)])]

/-- The update about a card without a path. -/
def leafUpdate : String × ComponentType → Json
  | (name, type) =>
      .object [("values", .object [(componentMark ++ name ++ "]", .string type.name)])]

/-- An output about some cards in the one layout and about some in the other. -/
def listing (inPath inLeaf : List (String × ComponentType)) : Json :=
  .array [.object
    [("updates", .array (inPath.map pathUpdate ++ inLeaf.map leafUpdate))]]

theorem writtenAround_mark (name : String) :
    WrittenAround componentMark name (componentMark ++ name ++ "]") :=
  ⟨"", "", rfl, by simp⟩

theorem typeUpdate_pathUpdate (card : String × ComponentType) :
    TypeUpdate card.1 card.2 (pathUpdate card) :=
  .inPath rfl rfl (writtenAround_mark card.1) (.inl rfl)

theorem typeUpdate_leafUpdate (card : String × ComponentType) :
    TypeUpdate card.1 card.2 (leafUpdate card) :=
  .inLeaf (.inl rfl) rfl (writtenAround_mark card.1) (.inl rfl)

theorem hasUpdate_listing {inPath inLeaf : List (String × ComponentType)} {update : Json} :
    HasUpdate (listing inPath inLeaf) update ↔
      update ∈ inPath.map pathUpdate ++ inLeaf.map leafUpdate := by
  simp [HasUpdate, listing, notifications, Json.member?, Json.members?, Json.items?]

/-- Every choice of cards and layouts has such an output. -/
theorem tellsTypes_listing (inPath inLeaf : List (String × ComponentType)) :
    TellsTypes (inPath ++ inLeaf) (listing inPath inLeaf) := by
  constructor
  · intro card hcard
    simp only [hasUpdate_listing, List.mem_append]
    rcases List.mem_append.mp hcard with hpath | hleaf
    · exact ⟨_, .inl (List.mem_map_of_mem hpath), typeUpdate_pathUpdate card⟩
    · exact ⟨_, .inr (List.mem_map_of_mem hleaf), typeUpdate_leafUpdate card⟩
  · intro update hhas
    rcases List.mem_append.mp (hasUpdate_listing.mp hhas) with hpath | hleaf
    · obtain ⟨card, hcard, rfl⟩ := List.mem_map.mp hpath
      exact ⟨card, List.mem_append_left _ hcard, typeUpdate_pathUpdate card⟩
    · obtain ⟨card, hcard, rfl⟩ := List.mem_map.mp hleaf
      exact ⟨card, List.mem_append_right _ hcard, typeUpdate_leafUpdate card⟩

/-! ## Exact discovery -/

/-- A query finds exactly the names that the updates tell, in the order of their octets,
and the order and the number of the updates do not matter.  Where there is one update for
each card, the cards of a type are found. -/
theorem discovery_exact (t : Target) (output : String) :
    (∀ updates type, Update.decode typePath output = .ok updates →
      ∃ names, FindsCards t type output names ∧
        ListsInOrder (fun name => ∃ u ∈ updates, u.TellsCard type name) names) ∧
    (∀ updates, Update.decode interfaceNamePath output = .ok updates →
      ∃ names, FindsInterfaces t output names ∧
        ListsInOrder (fun name => ∃ u ∈ updates, u.TellsInterface name) names) ∧
    ∀ value, Json.parse (Text.trim output.toList) = .ok value →
      (∀ output' value', Json.parse (Text.trim output'.toList) = .ok value' →
        SameUpdates value value' →
          (∀ type, ∃ names, FindsCards t type output names ∧ FindsCards t type output' names) ∧
          ∃ names, FindsInterfaces t output names ∧ FindsInterfaces t output' names) ∧
      ∀ cards, TellsTypes cards value → (∀ card ∈ cards, IsKey card.1) →
        ∀ type, ∃ names, FindsCards t type output names ∧
          ListsInOrder (fun name => (name, type) ∈ cards) names := by
  refine ⟨?_, ?_, ?_⟩
  · intro updates type hdecode
    exact ⟨_, findsCards_of_decode type hdecode, listsInOrder_componentNames type updates⟩
  · intro updates hdecode
    exact ⟨_, findsInterfaces_of_decode hdecode, listsInOrder_interfaceNames updates⟩
  · intro value hparse
    have hcards (type : ComponentType) :=
      findsCards_of_decode (t := t) type (decode_of_parse typePath hparse)
    have hinterfaces :=
      findsInterfaces_of_decode (t := t) (decode_of_parse interfaceNamePath hparse)
    refine ⟨?_, ?_⟩
    · intro output' value' hparse' hsame
      refine ⟨?_, _, hinterfaces, ?_⟩
      · intro type
        refine ⟨_, hcards type, ?_⟩
        rw [hsame.names_eq (listsInOrder_componentNames type)]
        exact findsCards_of_decode type (decode_of_parse typePath hparse')
      · rw [hsame.names_eq listsInOrder_interfaceNames]
        exact findsInterfaces_of_decode (decode_of_parse interfaceNamePath hparse')
    · intro cards htells hkeys type
      exact ⟨_, hcards type, htells.listsInOrder hkeys type⟩

/-- A linecard with a path of its own and a fabric card without one. -/
def chassisOutput : String :=
  "[\x7b\"updates\":[" ++
    "\x7b\"Path\":\"component[name=LC0]\",\"values\":\x7b\"type\":\"LINECARD\"\x7d\x7d," ++
    "\x7b\"values\":\x7b\"component[name=F[0]\":\"FABRIC\"\x7d\x7d]\x7d]"

theorem chassisOutput_discovery :
    FindsCards {} .linecard chassisOutput ["LC0"] ∧
      FindsCards {} .fabric chassisOutput ["F[0"] := by
  have hparse : Json.parse (Text.trim chassisOutput.toList) =
      .ok (listing [("LC0", .linecard)] [("F[0", .fabric)]) := by cbv
  have htells := tellsTypes_listing [("LC0", .linecard)] [("F[0", .fabric)]
  have hkeys : ∀ card ∈ [("LC0", ComponentType.linecard)] ++ [("F[0", .fabric)],
      IsKey card.1 := by
    simp [IsKey]
  have hfinds := ((discovery_exact {} chassisOutput).2.2 _ hparse).2 _ htells hkeys
  constructor
  · obtain ⟨names, hnames, hlists⟩ := hfinds .linecard
    rwa [hlists.eq_singleton "LC0" (by simp)] at hnames
  · obtain ⟨names, hnames, hlists⟩ := hfinds .fabric
    rwa [hlists.eq_singleton "F[0" (by simp)] at hnames

end CardReboot.Tool
