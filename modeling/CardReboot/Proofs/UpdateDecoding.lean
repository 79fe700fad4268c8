import CardReboot.Proofs.Discovery
import CardReboot.Proofs.FractionReading
import CardReboot.Proofs.JsonRecognition

/-!
# Decoding updates

What an output tells is told by its notifications in their order, by the entries of each
notification in theirs, and by the values of each entry in the order of the octets of their
names.  A part of another shape tells nothing, and the parts beside it tell what they would
without it.  Decoding finds all of this in every output that prints a value, whatever the
value, and it fails only where reading JSON does.
-/

namespace CardReboot.Tool

open Json JsonReader

/-! ## What a value tells -/

/-- The value is an object with this member. -/
def HasMember (v : Json) (name : String) (value : Json) : Prop :=
  ∃ members, v = .object members ∧ (name, value) ∈ members

/-- The entry has a path of its own, which is no empty text. -/
def HasPath (entry : Json) (path : String) : Prop :=
  HasMember entry "Path" (.string path) ∧ path ≠ ""

/-- One of the values of an entry, under the path of the entry or under its own name where the
entry has no path. -/
structure TellsValue (entry : Json) (m : String × Json) (u : Update) : Prop where
  value_eq : u.value = m.2
  own : ∀ path, HasPath entry path → u.path = path
  name : (∀ path, ¬ HasPath entry path) → u.path = m.1

/-- What the member of one name tells where it is of one kind; any other value tells nothing. -/
inductive MemberTells {α : Type} (name : String) (kind : α → Json)
    (tells : α → List Update → Prop) (v : Json) : List Update → Prop
  | member {found : α} {us : List Update} (hmember : HasMember v name (kind found))
      (hus : tells found us) : MemberTells name kind tells v us
  | nothing (hnone : ∀ found, ¬ HasMember v name (kind found)) :
      MemberTells name kind tells v []

/-- What the parts of a list tell, one after the other. -/
inductive PartsTell {α : Type} (tells : α → List Update → Prop) (items : List α) :
    List Update → Prop
  | parts {parts : List (List Update)} (hparts : List.Forall₂ tells items parts) :
      PartsTell tells items parts.flatten

/-- The values of an entry, in the order of the octets of their names. -/
structure ValuesTell (entry : Json) (members : List (String × Json)) (us : List Update) :
    Prop where
  ascend : members.Pairwise fun m other => Text.encode m.1.toList < Text.encode other.1.toList
  values : List.Forall₂ (TellsValue entry) members us

def EntryTells (entry : Json) : List Update → Prop :=
  MemberTells "values" .object (ValuesTell entry) entry

def NotificationTells : Json → List Update → Prop :=
  MemberTells "updates" .array (PartsTell EntryTells)

/-- What the notifications of a value tell, one after the other. -/
def Tells (v : Json) : List Update → Prop := PartsTell NotificationTells (notifications v)

/-! ## Values in order -/

/-- The members are in order at every level. -/
def IsOrdered (v : Json) : Prop := ∃ depth, v.IsWithin (fun _ => True) depth

theorem IsOrdered.item {items : List Json} (hitems : IsOrdered (.array items)) {v : Json}
    (hv : v ∈ items) : IsOrdered v := by
  obtain ⟨depth, hwithin⟩ := hitems
  cases hwithin with
  | array hitems => exact ⟨_, hitems v hv⟩

theorem IsOrdered.ascending {members : List (String × Json)}
    (hmembers : IsOrdered (.object members)) : Ascending members := by
  obtain ⟨depth, hwithin⟩ := hmembers
  cases hwithin with
  | object hascending => exact hascending

theorem IsOrdered.member {v value : Json} {name : String} (hv : IsOrdered v)
    (hmember : HasMember v name value) : IsOrdered value := by
  obtain ⟨members, rfl, hmem⟩ := hmember
  obtain ⟨depth, hwithin⟩ := hv
  cases hwithin with
  | object _ hmembers => exact ⟨_, hmembers _ hmem⟩

theorem IsOrdered.notification {v notification : Json} (hv : IsOrdered v)
    (hmem : notification ∈ notifications v) : IsOrdered notification := by
  cases v with
  | array items => exact hv.item hmem
  | null | bool | number | string | object =>
      obtain rfl := List.mem_singleton.mp hmem
      exact hv

theorem member?_eq_some_iff {v value : Json} {name : String} (hv : IsOrdered v) :
    v.member? name = some value ↔ HasMember v name value := by
  cases v with
  | object members =>
      have hlookup : members.lookup name = some value ↔ (name, value) ∈ members :=
        lookup_eq_some_iff hv.ascending
      simpa [member?, members?, HasMember] using hlookup
  | null | bool | number | string | array => simp [member?, members?, HasMember]

/-! ## What is told is what is found -/

/-- Where each part determines what it tells, the parts of a list do together. -/
theorem forall₂_iff_eq_map
    {α β : Type} {tells : α → β → Prop} {find : α → β} {parts : List α}
    (hparts : ∀ part ∈ parts, ∀ told, tells part told ↔ told = find part) (told : List β) :
    List.Forall₂ tells parts told ↔ told = parts.map find := by
  induction parts generalizing told with
  | nil => simp
  | cons part parts ih =>
      obtain ⟨hpart, hmore⟩ := List.forall_mem_cons.mp hparts
      cases told with
      | nil => simp
      | cons first rest => simp [hpart, ih hmore]

theorem members?_eq_some_iff {v : Json} {members : List (String × Json)} :
    v.members? = some members ↔ v = .object members := by
  cases v <;> simp [members?]

theorem items?_eq_some_iff {v : Json} {items : List Json} :
    v.items? = some items ↔ v = .array items := by
  cases v <;> simp [items?]

theorem string?_eq_some_iff {v : Json} {text : String} :
    v.string? = some text ↔ v = .string text := by
  cases v <;> simp [string?]

section Parts

variable {entry notification v : Json}

/-- A member of one kind is found by reading the member of its name as that kind. -/
theorem bind_member?_eq_some_iff
    {α : Type} {read : Json → Option α} {kind : α → Json}
    (hread : ∀ {value found}, read value = some found ↔ value = kind found) (hv : IsOrdered v)
    (name : String) (found : α) :
    (v.member? name).bind read = some found ↔ HasMember v name (kind found) := by
  rw [Option.bind_eq_some_iff]
  constructor
  · intro hfound
    obtain ⟨value, hvalue, hkind⟩ := hfound
    obtain rfl := hread.mp hkind
    exact (member?_eq_some_iff hv).mp hvalue
  · intro hmember
    exact ⟨kind found, (member?_eq_some_iff hv).mpr hmember, hread.mpr rfl⟩

theorem memberTells_iff
    {α : Type} {read : Json → Option α} {kind : α → Json} {tells : α → List Update → Prop}
    {find : α → List Update}
    (hread : ∀ {value found}, read value = some found ↔ value = kind found)
    (htells : ∀ found, IsOrdered (kind found) → ∀ us, tells found us ↔ us = find found)
    (hv : IsOrdered v) (name : String) (us : List Update) :
    MemberTells name kind tells v us ↔
      us = (((v.member? name).bind read).map find).getD [] := by
  have hfinds := bind_member?_eq_some_iff hread hv name
  constructor
  · intro hmember
    cases hmember with
    | @member found us hmember hus =>
        rw [(hfinds found).mpr hmember]
        exact (htells found (hv.member hmember) us).mp hus
    | nothing hnone =>
        have hnothing := Option.eq_none_iff_forall_ne_some.mpr fun found hfound =>
          hnone found ((hfinds found).mp hfound)
        rw [hnothing]
        rfl
  · intro hus
    cases hfound : (v.member? name).bind read with
    | none =>
        rw [hfound] at hus
        obtain rfl := hus
        refine .nothing fun found hmember => ?_
        rw [(hfinds found).mpr hmember] at hfound
        cases hfound
    | some found =>
        rw [hfound] at hus
        have hmember := (hfinds found).mp hfound
        exact .member hmember ((htells found (hv.member hmember) us).mpr hus)

theorem partsTell_iff
    {α : Type} {tells : α → List Update → Prop} {find : α → List Update} {items : List α}
    (htells : ∀ item ∈ items, ∀ us, tells item us ↔ us = find item) (us : List Update) :
    PartsTell tells items us ↔ us = items.flatMap find := by
  have hparts := forall₂_iff_eq_map htells
  rw [List.flatMap]
  constructor
  · intro hus
    obtain ⟨htold⟩ := hus
    rw [(hparts _).mp htold]
  · intro hus
    exact hus ▸ .parts ((hparts _).mpr rfl)

/-- The text that stands for the path of an entry; the empty one stands for none. -/
def ownPath (entry : Json) : String := ((entry.member? "Path").bind string?).getD ""

theorem hasPath_iff (hentry : IsOrdered entry) {path : String} :
    HasPath entry path ↔ ownPath entry = path ∧ path ≠ "" := by
  have hpath := bind_member?_eq_some_iff string?_eq_some_iff hentry "Path" path
  rw [HasPath, ← hpath, ownPath]
  apply and_congr_left
  intro hne
  cases (entry.member? "Path").bind string? with
  | none => simpa using hne.symm
  | some own => simp

theorem tellsValue_iff (hentry : IsOrdered entry) (m : String × Json) (u : Update) :
    TellsValue entry m u ↔ u = ⟨if ownPath entry = "" then m.1 else ownPath entry, m.2⟩ := by
  by_cases hown : ownPath entry = ""
  · rw [if_pos hown]
    have hnone (path : String) : ¬ HasPath entry path := by
      intro hpath
      obtain ⟨rfl, hne⟩ := (hasPath_iff hentry).mp hpath
      exact hne hown
    constructor
    · intro htells
      obtain ⟨path, value⟩ := u
      exact congrArg₂ Update.mk (htells.name hnone) htells.value_eq
    · intro hu
      obtain rfl := hu
      exact ⟨rfl, fun path hpath => absurd hpath (hnone path), fun _ => rfl⟩
  · rw [if_neg hown]
    have hpath : HasPath entry (ownPath entry) := (hasPath_iff hentry).mpr ⟨rfl, hown⟩
    constructor
    · intro htells
      obtain ⟨path, value⟩ := u
      exact congrArg₂ Update.mk (htells.own _ hpath) htells.value_eq
    · intro hu
      obtain rfl := hu
      exact ⟨rfl, fun path hother => ((hasPath_iff hentry).mp hother).1,
        fun hnone => absurd hpath (hnone _)⟩

theorem valuesTell_iff
    (hentry : IsOrdered entry) (members : List (String × Json))
    (hmembers : IsOrdered (.object members)) (us : List Update) :
    ValuesTell entry members us ↔ us = members.map fun m =>
      ⟨if ownPath entry = "" then m.1 else ownPath entry, m.2⟩ := by
  have hvalues (m : String × Json) (_ : m ∈ members) := tellsValue_iff hentry m
  rw [← forall₂_iff_eq_map hvalues]
  exact ⟨ValuesTell.values, fun hus => ⟨hmembers.ascending.imp Text.name_lt_iff.mp, hus⟩⟩

theorem entryTells_iff (hentry : IsOrdered entry) (us : List Update) :
    EntryTells entry us ↔ us = Update.ofEntry entry := by
  have htells := memberTells_iff members?_eq_some_iff (valuesTell_iff hentry) hentry "values" us
  rw [EntryTells, htells, Update.ofEntry]
  cases (entry.member? "values").bind members? <;> rfl

theorem notificationTells_iff (hnotification : IsOrdered notification) (us : List Update) :
    NotificationTells notification us ↔ us = Update.ofNotification notification := by
  have hentries (entries : List Json) (hordered : IsOrdered (.array entries)) :=
    partsTell_iff fun entry hentry => entryTells_iff (hordered.item hentry)
  have htells := memberTells_iff items?_eq_some_iff hentries hnotification "updates" us
  rw [NotificationTells, htells, Update.ofNotification]
  cases (notification.member? "updates").bind items? <;> rfl

/-- A value tells exactly what is found in it. -/
theorem tells_iff (hv : IsOrdered v) (us : List Update) :
    Tells v us ↔ us = Update.ofJson v := by
  rw [ofJson_eq]
  exact partsTell_iff (fun notification hmem => notificationTells_iff (hv.notification hmem)) us

end Parts

/-! ## Decoding -/

/-- The output is a text of the value, with blanks around it at most. -/
def Prints (v : Json) (output : String) : Prop :=
  ∃ before text after, output.toList = before ++ (text ++ after) ∧
    (∀ c ∈ before, Text.isBlank c = true) ∧ (∀ c ∈ after, Text.isBlank c = true) ∧
    Writes depthLimit (.value v) text

/-- The output is decoded, to just what the value tells. -/
def DecodesAs (path output : String) (v : Json) : Prop :=
  ∃ us, Update.decode path output = .ok us ∧ ∀ told, Tells v told ↔ told = us

section Decoding

variable {v : Json} {path output : String}

theorem Prints.isOrdered (hprints : Prints v output) : IsOrdered v := by
  obtain ⟨before, text, after, -, -, -, hwrites⟩ := hprints
  exact ⟨_, isWithin_of_writes hwrites⟩

theorem prints_iff : Prints v output ↔ Json.read (Text.trim output.toList) = .ok v := by
  constructor
  · intro hprints
    obtain ⟨before, text, after, houtput, hbefore, hafter, hwrites⟩ := hprints
    rw [houtput, hwrites.trim_append hbefore hafter]
    exact read_of_writes hwrites
  · intro hread
    obtain ⟨front, back, houtput, hfront, hback⟩ := Text.exists_eq_append_trim output.toList
    obtain ⟨before, text, after, htrim, hbefore, hafter, hwrites⟩ := read_eq_ok_iff.mp hread
    refine ⟨front ++ before, text, after ++ back, by rw [houtput, htrim]; simp, ?_, ?_, hwrites⟩
    · exact List.forall_mem_append.mpr ⟨hfront, fun c hc => isBlank_of_isSpace (hbefore c hc)⟩
    · exact List.forall_mem_append.mpr ⟨fun c hc => isBlank_of_isSpace (hafter c hc), hback⟩

theorem Prints.decode_eq (hprints : Prints v output) (path : String) :
    Update.decode path output = .ok (Update.ofJson v) := by
  apply decode_of_parse
  rw [parse, prints_iff.mp hprints]
  rfl

theorem Prints.decodesAs (hprints : Prints v output) (path : String) :
    DecodesAs path output v :=
  ⟨_, hprints.decode_eq path, tells_iff hprints.isOrdered⟩

theorem DecodesAs.decode_eq (hdecodes : DecodesAs path output v) (hv : IsOrdered v) :
    Update.decode path output = .ok (Update.ofJson v) := by
  obtain ⟨us, hus, htells⟩ := hdecodes
  rw [hus, (htells _).mp ((tells_iff hv _).mpr rfl)]

/-- A value within the limits of the reader is printed by its text, up to the rounding of its
fractions. -/
theorem prints_text (hv : v.IsWithin JsonNumber.IsInRange depthLimit) :
    Prints v.reread v.text := by
  refine ⟨[], write v, [], ?_, List.forall_mem_nil _, List.forall_mem_nil _, hv.writes_reread⟩
  simp [Json.text]

/-- Decoding fails where no value is printed and nowhere else. -/
theorem decode_fails_iff :
    (∃ reason, Update.decode path output = .error (.decode path reason)) ↔
      ∀ v, ¬ Prints v output := by
  simp only [prints_iff]
  cases hread : Json.read (Text.trim output.toList) with
  | ok v => simp [Update.decode, parse, hread, Except.mapError]
  | error stop => simp [Update.decode, parse, hread, Except.mapError]

theorem reread_array (items : List Json) :
    (Json.array items).reread = .array (items.map Json.reread) := by
  rw [Json.reread, mapNumbers, mapItems_eq]
  rfl

/-- A single notification is the one of a list of it. -/
theorem notifications_reread (hsingle : ∀ items, v ≠ .array items) :
    notifications v.reread = [v.reread] := by
  cases v with
  | array items => exact absurd rfl (hsingle items)
  | null | bool | number | string | object => rfl

theorem decode_text_eq
    (hv : v.IsWithin JsonNumber.IsInRange depthLimit) (path : String) :
    Update.decode path v.text = .ok ((notifications v.reread).flatMap Update.ofNotification) := by
  rw [(prints_text hv).decode_eq path, ofJson_eq]

/-- Decoding an output gives what the value that it prints tells, and fails only where the
output prints no value.  A value that was written and read again differs from itself by the
reader's rounding of its fractions only; see `decodesAs_text_of_isKept`. -/
theorem decode_tells (path : String) :
    (∀ output, (∃ reason, Update.decode path output = .error (.decode path reason)) ↔
      ∀ v, ¬ Prints v output) ∧
    (∀ output v, Prints v output → DecodesAs path output v) ∧
    (∀ v : Json, v.IsWithin JsonNumber.IsInRange depthLimit →
      DecodesAs path v.text v.reread) ∧
    (∀ v : Json, v.IsWithin JsonNumber.FitsWord depthLimit → DecodesAs path v.text v) ∧
    (∀ v : Json, v.IsWithin JsonNumber.IsInRange depthLimit → (∀ items, v ≠ .array items) →
      DecodesAs path v.text (.array [v.reread]) ∧
        ((Json.array [v]).IsWithin JsonNumber.IsInRange depthLimit →
          Update.decode path v.text = Update.decode path (Json.array [v]).text)) ∧
    ∀ items others, (Json.array (items ++ others)).IsWithin JsonNumber.IsInRange depthLimit →
      ∃ us us', Update.decode path (Json.array items).text = .ok us ∧
        Update.decode path (Json.array others).text = .ok us' ∧
        Update.decode path (Json.array (items ++ others)).text = .ok (us ++ us') := by
  refine ⟨fun _ => decode_fails_iff, fun _ _ hprints => hprints.decodesAs path,
    fun _ hv => (prints_text hv).decodesAs path, ?_, ?_, ?_⟩
  · intro v hv
    have hprints := prints_text (hv.mono fun _ => JsonNumber.FitsWord.isInRange)
    rw [hv.reread_eq] at hprints
    exact hprints.decodesAs path
  · intro v hv hsingle
    have hnotifications := notifications_reread hsingle
    constructor
    · obtain ⟨us, hus, htells⟩ := (prints_text hv).decodesAs path
      refine ⟨us, hus, fun told => ?_⟩
      rw [← htells told, Tells, Tells, hnotifications]
      rfl
    · intro hlist
      rw [decode_text_eq hv, decode_text_eq hlist, hnotifications, reread_array]
      rfl
  · intro items others hlist
    obtain ⟨hitems, hothers⟩ := hlist.of_append
    refine ⟨_, _, decode_text_eq hitems path, decode_text_eq hothers path, ?_⟩
    rw [decode_text_eq hlist, reread_array, reread_array, reread_array, List.map_append]
    simp only [notifications, List.flatMap_append]

/-- A value is decoded as itself where the reader rounds none of its fractions away from what
was written. -/
theorem decodesAs_text_of_isKept
    (hv : v.IsWithin JsonNumber.IsKept depthLimit) (path : String) : DecodesAs path v.text v := by
  have hprints := prints_text (hv.mono fun _ => JsonNumber.IsKept.isInRange)
  rw [hv.reread_eq_of_isKept] at hprints
  exact hprints.decodesAs path

end Decoding

/-- Entries and members of other shapes beside those that tell values. -/
def unevenNotification : Json :=
  .object [("updates", .array [
    .object [("Path", .number (.natural 7)),
      ("values", .object [("a", .number (.negative 2)), ("b", .bool true)])],
    .string "values",
    .object [("Path", .string "p"), ("values", .array [.string "x"])],
    .object [("Path", .string "p"), ("values", .object [("c", .array []), ("é", .null)])]])]

def moreNotifications : List Json :=
  [.object [("updates", .object [])],
    .object [("updates", .array [.object [("Path", .string ""),
      ("values", .object [("d", .null)])]])]]

def looseValue : Json :=
  .object [("updates", .array [.number (.natural 7), .object [("values",
    .object [("a", .null), ("b", .number (.natural 1))])]])]

/-- A text of the value with blanks in it and with the values in another order. -/
def looseOutput : String :=
  "\n\x7b\"updates\" :[7, \x7b\"values\":\x7b\"b\":1,\"a\":null\x7d\x7d]\x7d"

theorem prints_loose : Prints looseValue looseOutput := by
  have hnone : IsSpaces [] := List.forall_mem_nil _
  have hblank : IsSpaces [' '] := by simp [IsSpaces, isSpace]
  have hone : JsonNumber.FitsWord (.natural 1) := by decide
  have hseven : JsonNumber.FitsWord (.natural 7) := by decide
  have hvalues : Writes 124 (.value _) _ := .object (.member (.first hnone)
    (writesString_writeString "b") hnone hnone (.number hone.writesNumber)
      (.member (.next hnone hnone) (writesString_writeString "a") hnone hnone .null
        (.noMember hnone)))
  have hentry : Writes 125 (.value _) _ := .object (.member (.first hnone)
    (writesString_writeString "values") hnone hnone hvalues (.noMember hnone))
  have hentries : Writes 126 (.value _) _ := .array (.item (.first hnone)
    (.number hseven.writesNumber) (.item (.next hnone hblank) hentry (.noItem hnone)))
  have hupdates := Writes.object (.member (.first hnone) (writesString_writeString "updates")
    hblank hnone hentries (.noMember hnone))
  have hfeed : ∀ c ∈ ['\n'], Text.isBlank c = true := List.forall_mem_singleton.mpr (by decide)
  exact ⟨['\n'], _, [], by decide, hfeed, List.forall_mem_nil _, hupdates⟩

theorem uneven_decode :
    (Json.array ([unevenNotification] ++ moreNotifications)).IsWithin
        JsonNumber.FitsWord depthLimit ∧
      Update.decode "/components" (Json.array ([unevenNotification] ++ moreNotifications)).text =
        .ok [⟨"a", .number (.negative 2)⟩, ⟨"b", .bool true⟩, ⟨"p", .array []⟩, ⟨"p", .null⟩,
          ⟨"d", .null⟩] ∧
      Update.decode "/components" unevenNotification.text =
        Update.decode "/components" (Json.array [unevenNotification]).text ∧
      Prints looseValue looseOutput ∧
      Update.decode "/components" looseOutput =
        .ok [⟨"a", .null⟩, ⟨"b", .number (.natural 1)⟩] := by
  have hpath : "Path" < "values" := by decide
  have ha : "a" < "b" := by decide
  have hc : "c" < "é" := by decide
  have hwithin : (Json.array ([unevenNotification] ++ moreNotifications)).IsWithin
      JsonNumber.FitsWord depthLimit := by
    simp [depthLimit, unevenNotification, moreNotifications, JsonNumber.FitsWord,
      ascending_pair hpath, ascending_pair ha, ascending_pair hc]
  have hone : unevenNotification.IsWithin JsonNumber.FitsWord depthLimit := by
    simp [depthLimit, unevenNotification, JsonNumber.FitsWord, ascending_pair hpath,
      ascending_pair ha, ascending_pair hc]
  have hinRange (n : JsonNumber) (hn : n.FitsWord) : n.IsInRange := hn.isInRange
  have hordered : IsOrdered (.array ([unevenNotification] ++ moreNotifications)) :=
    ⟨_, hwithin.mono fun _ _ => trivial⟩
  have hlist := hwithin.of_append.1.mono hinRange
  obtain ⟨-, hprinted, -, htext, hsingle, -⟩ := decode_tells "/components"
  refine ⟨hwithin, (htext _ hwithin).decode_eq hordered, ?_, prints_loose,
    (hprinted _ _ prints_loose).decode_eq prints_loose.isOrdered⟩
  exact (hsingle _ (hone.mono hinRange) (fun _ => nofun)).2 hlist

end CardReboot.Tool
