import CardReboot.Json.Writer
import CardReboot.Proofs.JsonOrder
import CardReboot.Proofs.NumberTexts
import CardReboot.Proofs.OctetOrder

/-!
# The texts of values

A value is written as the reader wants it.  As long as it has no more levels than the reader
allows and none of its numbers is too large to be read, its text is read, and the value read is
the value itself up to the rounding of its fractions: whole numbers of sixty-four bits, texts,
lists and objects are read as they were.
-/

namespace CardReboot

open Text JsonReader

/-! ## Strings -/

theorem Json.writesHex_hex4 {n : Nat} (hn : n < 0x10000) : WritesHex n (hex4 n) where
  length_eq := by
    have hlength : (Nat.toDigits 16 n).length ≤ 4 :=
      (Nat.length_toDigits_le_iff (by decide) (by decide)).mpr hn
    simp only [hex4, List.length_append, List.length_replicate]
    omega
  hex := by
    intro c hc
    rcases List.mem_append.mp hc with hzero | hdigit
    · obtain rfl := List.eq_of_mem_replicate hzero
      decide
    · exact (numeral_toDigits (by decide) (by decide) n).2 c hdigit
  numeral_eq := by
    rw [hex4, numeral_zeros]
    exact (numeral_toDigits (by decide) (by decide) n).1

theorem Json.unicodeEscape_append (n : Nat) (rest : List Char) :
    unicodeEscape n ++ rest = '\\' :: 'u' :: (hex4 n ++ rest) := rfl

theorem Json.writesChar_escapeChar (c : Char) : WritesChar c (escapeChar c) := by
  have hlimit := Text.toNat_lt c
  unfold escapeChar
  extract_lets n
  split
  next hquote =>
    obtain rfl := hquote
    exact .short (by decide)
  split
  next hbackslash =>
    obtain rfl := hbackslash
    exact .short (by decide)
  split
  next hquote hbackslash hplain => exact .plain hquote hbackslash hplain.1
  split
  next hplane => exact .unit (writesHex_hex4 hplane)
  next hplane =>
    have hleading : 0xD800 + (c.toNat - 0x10000) / 0x400 < 0x10000 := by omega
    have htrailing : 0xDC00 + (c.toNat - 0x10000) % 0x400 < 0x10000 := by omega
    rw [unicodeEscape_append, unicodeEscape]
    exact .pair (Nat.not_lt.mp hplane) (writesHex_hex4 hleading) (writesHex_hex4 htrailing)

theorem Json.writesString_writeString (s : String) : WritesString s (writeString s) := by
  have hchars (chars : List Char) : WritesChars chars (chars.flatMap escapeChar) := by
    induction chars with
    | nil => exact .nil
    | cons c chars ih => exact .cons (writesChar_escapeChar c) ih
  exact .quoted (hchars s.toList)

/-! ## Numbers -/

namespace JsonNumber

/-- The number is not refused as one that is out of range when its text is read. -/
def IsInRange (n : JsonNumber) : Prop :=
  ∀ stop, Json.read n.text.toList = .error stop → stop.fault ≠ .numberOutOfRange

/-- The number that is read from the text of the number.  Only a fraction can differ from it,
by the rounding of the reader: see `reread_fraction`, and `IsKept` for those that do not. -/
def reread (n : JsonNumber) : JsonNumber :=
  match Json.read n.text.toList with
  | .ok (.number m) => m
  | _ => n

/-- The number is whole and fits a word of sixty-four bits, with its sign. -/
def FitsWord : JsonNumber → Prop
  | natural n => n < Nat.pow 2 64
  | negative n => 0 < n ∧ n ≤ Nat.pow 2 63
  | fraction _ _ => False

instance : DecidablePred FitsWord
  | natural n => inferInstanceAs (Decidable (n < Nat.pow 2 64))
  | negative n => inferInstanceAs (Decidable (0 < n ∧ n ≤ Nat.pow 2 63))
  | fraction _ _ => inferInstanceAs (Decidable False)

theorem reread_of_writes {n m : JsonNumber} (hwrites : WritesNumber m n.text.toList) :
    n.reread = m := by
  rw [reread, Json.read_of_writes (.number hwrites)]

theorem isInRange_of_writes {n m : JsonNumber} (hwrites : WritesNumber m n.text.toList) :
    n.IsInRange := by
  intro stop hread
  rw [Json.read_of_writes (.number hwrites)] at hread
  cases hread

/-- A number is written as one without a sign, perhaps with a minus in front of it. -/
theorem isUnsigned_text (n : JsonNumber) :
    ∃ text, IsUnsigned text ∧ (n.text.toList = text ∨ n.text.toList = '-' :: text) := by
  cases n with
  | natural n => exact ⟨_, (isWhole_toDigits n).isUnsigned, .inl (Nat.toList_repr)⟩
  | negative n =>
      refine ⟨_, (isWhole_toDigits n).isUnsigned, .inr ?_⟩
      simp [JsonNumber.text]
  | fraction negative m =>
      refine ⟨_, m.isUnsigned_text, ?_⟩
      cases negative with
      | false => exact .inl rfl
      | true => exact .inr (by simp [JsonNumber.text])

theorem read_eq_error {text : List Char} {stop : JsonStop}
    (hvalue : value (text.length + 1) depthLimit text = .error stop) :
    Json.read text = .error stop := by
  simp only [Json.read, hvalue, bind, Except.bind]

theorem writesNumber_text {n : JsonNumber} (hn : n.IsInRange) :
    WritesNumber n.reread n.text.toList := by
  obtain ⟨text, htext, hplain | hsigned⟩ := n.isUnsigned_text
  · rcases number_ok_or_outOfRange true htext with ⟨m, hread⟩ | ⟨left, hread⟩
    · have hwrites : WritesNumber m n.text.toList := hplain ▸ .unsigned htext hread
      rwa [reread_of_writes hwrites]
    · have hvalue := value_unsigned text.length depthLimit [] htext
      rw [List.append_nil, hread, ← hplain] at hvalue
      exact absurd rfl (hn _ (read_eq_error hvalue))
  · rcases number_ok_or_outOfRange false htext with ⟨m, hread⟩ | ⟨left, hread⟩
    · have hwrites : WritesNumber m n.text.toList := hsigned ▸ .signed htext hread
      rwa [reread_of_writes hwrites]
    · have hvalue := value_signed ('-' :: text).length depthLimit text
      rw [hread, ← hsigned] at hvalue
      exact absurd rfl (hn _ (read_eq_error hvalue))

theorem number_toDigits {n : Nat} (hn : n < wordLimit) (positive : Bool) :
    number positive (Nat.toDigits 10 n) = whole positive n [] := by
  have hvalue : numeral 10 (Nat.toDigits 10 n) = n :=
    (numeral_toDigits (by decide) (by decide) n).1
  rw [number_of_isWhole (isWhole_toDigits n) (by rwa [hvalue]), hvalue]

/-- A whole number of sixty-four bits is read as it is written. -/
theorem FitsWord.writesNumber {n : JsonNumber} (hn : n.FitsWord) :
    WritesNumber n n.text.toList := by
  cases n with
  | natural n =>
      have hread := number_toDigits hn true
      rw [JsonNumber.text, Nat.toList_repr]
      exact .unsigned (isWhole_toDigits n).isUnsigned hread
  | negative n =>
      obtain ⟨hpositive, hsmall⟩ := hn
      have hlimit : n < wordLimit := Nat.lt_of_le_of_lt hsmall (by decide)
      have hread : number false (Nat.toDigits 10 n) = .ok (.negative n, []) := by
        rw [number_toDigits hlimit, whole, if_neg (by decide), if_pos ⟨hpositive, hsmall⟩]
      have htext : (JsonNumber.negative n).text.toList = '-' :: Nat.toDigits 10 n := by
        simp [JsonNumber.text]
      rw [htext]
      exact .signed (isWhole_toDigits n).isUnsigned hread
  | fraction => exact hn.elim

theorem FitsWord.isInRange {n : JsonNumber} (hn : n.FitsWord) : n.IsInRange :=
  isInRange_of_writes hn.writesNumber

end JsonNumber

/-! ## Values -/

namespace Json

mutual

/-- The value with each of its numbers replaced. -/
def mapNumbers (f : JsonNumber → JsonNumber) : Json → Json
  | number n => number (f n)
  | array items => array (mapItems f items)
  | object members => object (mapMembers f members)
  | null => null
  | bool b => bool b
  | string s => string s

def mapItems (f : JsonNumber → JsonNumber) : List Json → List Json
  | [] => []
  | item :: rest => mapNumbers f item :: mapItems f rest

def mapMembers (f : JsonNumber → JsonNumber) : List (String × Json) → List (String × Json)
  | [] => []
  | (name, value) :: rest => (name, mapNumbers f value) :: mapMembers f rest

end

/-- The value that is read from the text of the value. -/
def reread (v : Json) : Json := v.mapNumbers JsonNumber.reread

theorem mapItems_eq (f : JsonNumber → JsonNumber) (items : List Json) :
    mapItems f items = items.map (mapNumbers f) := by
  induction items with
  | nil => rfl
  | cons item rest ih => rw [mapItems, ih, List.map_cons]

theorem mapMembers_eq (f : JsonNumber → JsonNumber) (members : List (String × Json)) :
    mapMembers f members = members.map fun m => (m.1, mapNumbers f m.2) := by
  induction members with
  | nil => rfl
  | cons m rest ih =>
      obtain ⟨name, value⟩ := m
      rw [mapMembers, ih, List.map_cons]

theorem ascending_mapMembers
    {f : JsonNumber → JsonNumber} {members : List (String × Json)} (hmembers : Ascending members) :
    Ascending (mapMembers f members) := by
  rw [mapMembers_eq]
  exact List.pairwise_map.mpr hmembers

variable {fits : JsonNumber → Prop} {f : JsonNumber → JsonNumber} {depth : Nat} {v : Json}

theorem IsWithin.mapNumbers_eq
    (hv : IsWithin fits depth v) (hfits : ∀ n, fits n → f n = n) : v.mapNumbers f = v := by
  induction hv with
  | null => rfl
  | bool => rfl
  | number hn => rw [mapNumbers, hfits _ hn]
  | string => rfl
  | array _ ih => rw [mapNumbers, mapItems_eq, List.map_congr_left ih, List.map_id']
  | @object depth members _ _ ih =>
      have hsame (m : String × Json) (hm : m ∈ members) : (m.1, mapNumbers f m.2) = m := by
        rw [ih m hm]
      rw [mapNumbers, mapMembers_eq, List.map_congr_left hsame, List.map_id']

/-! ## Values are written -/

/-- What stands before an item that is written. -/
def comma (first : Bool) : List Char := if first then [] else [',']

theorem isLead_comma (first : Bool) : IsLead first (comma first) := by
  have hnone : IsSpaces [] := List.forall_mem_nil _
  cases first with
  | true => exact .first hnone
  | false => exact .next hnone hnone

theorem writes_writeItems
    {items : List Json}
    (hitems : ∀ v ∈ items, Writes depth (.value (mapNumbers f v)) (write v)) (first : Bool) :
    Writes depth (.items first (mapItems f items)) (writeItems first items ++ [']']) := by
  induction items generalizing first with
  | nil => exact .noItem (List.forall_mem_nil _)
  | cons item rest ih =>
      obtain ⟨hitem, hrest⟩ := List.forall_mem_cons.mp hitems
      have hwrites := Writes.item (isLead_comma first) hitem (ih hrest false)
      simpa [mapItems, writeItems, comma] using hwrites

theorem writes_writeMembers
    {members : List (String × Json)}
    (hmembers : ∀ m ∈ members, Writes depth (.value (mapNumbers f m.2)) (write m.2))
    (first : Bool) :
    Writes depth (.members first (mapMembers f members))
      (writeMembers first members ++ ['\x7d']) := by
  induction members generalizing first with
  | nil => exact .noMember (List.forall_mem_nil _)
  | cons m rest ih =>
      obtain ⟨hm, hrest⟩ := List.forall_mem_cons.mp hmembers
      have hnone : IsSpaces [] := List.forall_mem_nil _
      have hwrites := Writes.member (isLead_comma first) (writesString_writeString m.1) hnone
        hnone hm (ih hrest false)
      simpa [mapMembers, writeMembers, comma] using hwrites

/-- A value is written as far as its numbers are. -/
theorem IsWithin.writes_write
    (hv : IsWithin fits depth v) (hfits : ∀ n, fits n → WritesNumber (f n) n.text.toList) :
    Writes depth (.value (v.mapNumbers f)) (write v) := by
  induction hv with
  | null => exact .null
  | bool b =>
      cases b with
      | true => exact .yes
      | false => exact .no
  | number hn => exact .number (hfits _ hn)
  | string s => exact .string (writesString_writeString s)
  | array _ ih => exact .array (writes_writeItems ih true)
  | object hascending _ ih =>
      have hwrites := Writes.object (writes_writeMembers ih true)
      rwa [ofMembers_of_ascending (ascending_mapMembers hascending)] at hwrites

theorem IsWithin.writes_reread (hv : IsWithin JsonNumber.IsInRange depth v) :
    Writes depth (.value v.reread) (write v) :=
  hv.writes_write fun _ => JsonNumber.writesNumber_text

/-- Whole numbers of sixty-four bits are all read as they were. -/
theorem IsWithin.reread_eq (hv : IsWithin JsonNumber.FitsWord depth v) : v.reread = v :=
  hv.mapNumbers_eq fun _ hn => JsonNumber.reread_of_writes hn.writesNumber

end Json

end CardReboot
