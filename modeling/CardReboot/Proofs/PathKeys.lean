import CardReboot.Path
import CardReboot.Tool.Device

/-!
# The key in a path

A path names a card by a key: what stands behind a mark and before the next bracket that
closes, if it is anything at all.  The mark is looked for anywhere in the path, so it can
be found more than once, also inside a key; the key that begins first is the one that
counts.  A path that was written around a name gives the name back exactly when a key can
hold it.
-/

/-! ## Parts of a text before a separator -/

namespace CardReboot.Text

variable {separator : Char} {text part : List Char}

theorem bne_of_free (hfree : separator ∉ part) : ∀ c ∈ part, (c != separator) = true := by
  intro c hc
  have hne : c ≠ separator := fun hsame => hfree (hsame ▸ hc)
  simpa using hne

theorem takeWhile_part (hfree : separator ∉ part) (after : List Char) :
    (part ++ separator :: after).takeWhile (· != separator) = part := by
  rw [List.takeWhile_append_of_pos (bne_of_free hfree)]
  simp

theorem exists_separator_of_takeWhile
    (hshort : (text.takeWhile (· != separator)).length < text.length) :
    ∃ after, text = text.takeWhile (· != separator) ++ separator :: after := by
  have hsplit := List.takeWhile_append_dropWhile (p := (· != separator)) (l := text)
  have hstops := List.head?_dropWhile_not (· != separator) text
  cases hrest : text.dropWhile (· != separator) with
  | nil =>
      rw [hrest, List.append_nil] at hsplit
      rw [hsplit] at hshort
      exact absurd hshort (Nat.lt_irrefl _)
  | cons c after =>
      have hsame : c = separator := by simpa [hrest] using hstops
      rw [hrest, hsame] at hsplit
      exact ⟨after, hsplit.symm⟩

theorem takeWhile_free : separator ∉ text.takeWhile (· != separator) := by
  intro hmem
  have hother := List.all_eq_true.mp List.all_takeWhile _ hmem
  simp at hother

end CardReboot.Text

namespace CardReboot.Tool

/-- Behind `before` the text has the mark, a key and the bracket that closes it. -/
def KeyBehind (mark before key text : List Char) : Prop :=
  key ≠ [] ∧ ']' ∉ key ∧ ∃ after, text = before ++ mark ++ key ++ ']' :: after

/-- Of all keys in the text this is the one that begins first. -/
def IsFirstKey (mark key text : List Char) : Prop :=
  ∃ before, KeyBehind mark before key text ∧
    ∀ earlier other, KeyBehind mark earlier other text → before.length ≤ earlier.length

/-- The name can stand as a key. -/
def IsKey (name : String) : Prop := name ≠ "" ∧ ']' ∉ name.toList

/-! ## Finding a key -/

section Search

variable {mark before key rest text : List Char} {c d : Char}

theorem keyAt?_eq_some_iff : keyAt? mark text = some key ↔ KeyBehind mark [] key text := by
  constructor
  · intro hfound
    simp only [keyAt?, Option.ite_none_right_eq_some, Option.some.injEq, Bool.and_eq_true,
      Bool.not_eq_true', decide_eq_true_eq] at hfound
    obtain ⟨⟨⟨hmark, hnonempty⟩, hshort⟩, hkey⟩ := hfound
    obtain ⟨tail, rfl⟩ := List.isPrefixOf_iff_prefix.mp hmark
    rw [List.drop_left] at hnonempty hshort hkey
    rw [List.length_append] at hshort
    have hclosed : ∃ after, tail = tail.takeWhile (· != ']') ++ ']' :: after :=
      Text.exists_separator_of_takeWhile (by omega)
    obtain ⟨after, htail⟩ := hclosed
    have hfree : ']' ∉ tail.takeWhile (· != ']') := Text.takeWhile_free
    rw [hkey] at hnonempty htail hfree
    have hne : key ≠ [] := by simpa using hnonempty
    refine ⟨hne, hfree, after, ?_⟩
    rw [htail, List.nil_append, List.append_assoc]
  · rintro ⟨hne, hfree, after, rfl⟩
    have htake := Text.takeWhile_part hfree after
    have hshort : key.length + mark.length < mark.length + (key.length + (after.length + 1)) := by
      omega
    simp [keyAt?, htake, hne, hshort]

theorem keyBehind_cons_iff :
    KeyBehind mark (d :: before) key (c :: rest) ↔ d = c ∧ KeyBehind mark before key rest := by
  constructor
  · rintro ⟨hne, hfree, after, htext⟩
    obtain ⟨rfl, hrest⟩ := List.cons.inj htext
    exact ⟨rfl, hne, hfree, after, hrest⟩
  · rintro ⟨rfl, hne, hfree, after, rfl⟩
    exact ⟨hne, hfree, after, rfl⟩

theorem not_keyBehind_nil : ¬ KeyBehind mark before key [] := by
  rintro ⟨-, -, after, htext⟩
  simp at htext

theorem firstKey?_eq_some_iff : firstKey? mark text = some key ↔ IsFirstKey mark key text := by
  -- A key at the start begins before every other; without one, the first key of the text is
  -- that of its rest, one character further on.
  induction text with
  | nil =>
      constructor
      · intro hfound
        cases hfound
      · rintro ⟨before, hkey, -⟩
        exact absurd hkey not_keyBehind_nil
  | cons c rest ih =>
      cases hhere : keyAt? mark (c :: rest) with
      | some found =>
          have hfound := keyAt?_eq_some_iff.mp hhere
          have hfirst : firstKey? mark (c :: rest) = some found := by simp [firstKey?, hhere]
          rw [hfirst, Option.some.injEq]
          constructor
          · rintro rfl
            exact ⟨[], hfound, fun _ _ _ => Nat.zero_le _⟩
          · rintro ⟨before, hkey, hleast⟩
            have hempty := hleast [] found hfound
            obtain rfl := List.length_eq_zero_iff.mp (Nat.le_zero.mp hempty)
            have hsame := hhere.symm.trans (keyAt?_eq_some_iff.mpr hkey)
            exact Option.some.inj hsame
      | none =>
          have hnone : ∀ other, ¬ KeyBehind mark [] other (c :: rest) := by
            intro other hother
            rw [← keyAt?_eq_some_iff, hhere] at hother
            cases hother
          have hfirst : firstKey? mark (c :: rest) = firstKey? mark rest := by
            simp [firstKey?, hhere]
          rw [hfirst, ih]
          constructor
          · rintro ⟨before, hkey, hleast⟩
            refine ⟨c :: before, keyBehind_cons_iff.mpr ⟨rfl, hkey⟩, ?_⟩
            intro earlier other hother
            cases earlier with
            | nil => exact absurd hother (hnone other)
            | cons d earlier =>
                have hlater := hleast earlier other (keyBehind_cons_iff.mp hother).2
                simpa using hlater
          · rintro ⟨before, hkey, hleast⟩
            cases before with
            | nil => exact absurd hkey (hnone key)
            | cons d before =>
                refine ⟨before, (keyBehind_cons_iff.mp hkey).2, ?_⟩
                intro earlier other hother
                have hlater := hleast (c :: earlier) other (keyBehind_cons_iff.mpr ⟨rfl, hother⟩)
                simpa using hlater

theorem nameIn?_eq_some_iff {mark path name : String} :
    nameIn? mark path = some name ↔ IsFirstKey mark.toList name.toList path.toList := by
  rw [← firstKey?_eq_some_iff]
  constructor
  · intro hfound
    obtain ⟨key, hkey, rfl⟩ := Option.map_eq_some_iff.mp hfound
    rw [hkey, String.toList_ofList]
  · intro hfound
    refine Option.map_eq_some_iff.mpr ⟨name.toList, hfound, String.ofList_toList⟩

theorem isKey_of_nameIn? {mark path name : String} (hfound : nameIn? mark path = some name) :
    IsKey name := by
  obtain ⟨before, ⟨hne, hfree, -⟩, -⟩ := nameIn?_eq_some_iff.mp hfound
  have hnonempty : name ≠ "" := by
    rintro rfl
    exact hne rfl
  exact ⟨hnonempty, hfree⟩

end Search

/-! ## Paths written around a name -/

/-- No mark begins in the lead of a text that goes on with a mark. -/
def leads (mark : List Char) : List Char → Bool
  | [] => true
  | c :: lead => !mark.isPrefixOf (c :: lead ++ mark) && leads mark lead

/-- The path has the name behind the mark, and no earlier mark. -/
def WrittenAround (mark name path : String) : Prop :=
  ∃ lead rest, leads mark.toList lead.toList = true ∧
    path = lead ++ mark ++ name ++ "]" ++ rest

theorem keyAt?_of_lead
    {mark lead : List Char} {c : Char} (hlead : mark.isPrefixOf (c :: lead ++ mark) = false)
    (tail : List Char) : keyAt? mark (c :: lead ++ (mark ++ tail)) = none := by
  have hapart : mark.isPrefixOf (c :: lead ++ (mark ++ tail)) = false := by
    rw [Bool.eq_false_iff] at hlead ⊢
    intro hmark
    apply hlead
    -- The mark is no longer than the lead with a mark, so it does not reach the tail.
    rw [List.isPrefixOf_iff_prefix] at hmark ⊢
    rw [← List.append_assoc] at hmark
    have hlong : mark.length ≤ (c :: lead ++ mark).length := by
      rw [List.length_append]
      omega
    exact List.prefix_of_prefix_length_le hmark (List.prefix_append _ _) hlong
  simp only [keyAt?, hapart, Bool.false_and]
  rfl

theorem firstKey?_of_leads
    {mark lead : List Char} (hleads : leads mark lead = true) (tail : List Char) :
    firstKey? mark (lead ++ (mark ++ tail)) = firstKey? mark (mark ++ tail) := by
  induction lead with
  | nil => rfl
  | cons c lead ih =>
      simp only [leads, Bool.and_eq_true, Bool.not_eq_true'] at hleads
      have hhere := keyAt?_of_lead hleads.1 tail
      rw [← ih hleads.2]
      simp only [List.cons_append] at hhere ⊢
      simp only [firstKey?, hhere]

/-- A path that was written around a name gives the name back, if a key can hold it. -/
theorem WrittenAround.nameIn?_eq_some_iff
    {mark name path : String} (hwritten : WrittenAround mark name path) :
    nameIn? mark path = some name ↔ IsKey name := by
  refine ⟨isKey_of_nameIn?, ?_⟩
  rintro ⟨hne, hfree⟩
  obtain ⟨lead, rest, hleads, rfl⟩ := hwritten
  have htext : (lead ++ mark ++ name ++ "]" ++ rest).toList =
      lead.toList ++ (mark.toList ++ (name.toList ++ ']' :: rest.toList)) := by
    simp
  have hnonempty : name.toList ≠ [] := by simpa using hne
  have hkey : KeyBehind mark.toList [] name.toList
      (mark.toList ++ (name.toList ++ ']' :: rest.toList)) :=
    ⟨hnonempty, hfree, rest.toList, by simp⟩
  have hfirst : IsFirstKey mark.toList name.toList
      (mark.toList ++ (name.toList ++ ']' :: rest.toList)) :=
    ⟨[], hkey, fun _ _ _ => Nat.zero_le _⟩
  rw [nameIn?, htext, firstKey?_of_leads hleads, firstKey?_eq_some_iff.mpr hfirst]
  simp

theorem leads_components : leads componentMark.toList "/components/".toList = true := by
  decide +kernel

theorem components_mark : "/components/component[name=" = "/components/" ++ componentMark := rfl

theorem writtenAround_statePath (name leaf : String) :
    WrittenAround componentMark name (statePath name leaf) := by
  have hclosed : "]/state/" = "]" ++ "/state/" := rfl
  refine ⟨"/components/", "/state/" ++ leaf, leads_components, ?_⟩
  unfold statePath
  simp only [components_mark, hclosed, String.append_assoc]

theorem writtenAround_spelling (name : String) :
    WrittenAround componentMark name (ComponentPath.spelling name false) := by
  refine ⟨"/components/", "", leads_components, ?_⟩
  rw [String.append_empty, ← components_mark]
  rfl

end CardReboot.Tool
