import CardReboot.Failure
import CardReboot.Proofs.JsonNumberRecognition
import CardReboot.Proofs.JsonReading

/-!
# What is read as JSON

Where a value is read, it is written: the text is a text of the value with spaces before and
after it.  So the reader takes exactly the texts of values that are within its limits, and
from each of them the value that it writes.
-/

namespace CardReboot.JsonReader

open Text

/-! ## Strings -/

theorem hexValue?_lt {c : Char} {value : Nat} (hc : hexValue? c = some value) : value < 16 := by
  unfold hexValue? at hc
  split at hc
  next hdigit =>
    cases hc
    simp only [isAsciiDigit, Bool.and_eq_true, decide_eq_true_eq] at hdigit
    change '0'.toNat ≤ c.toNat ∧ c.toNat ≤ 57 at hdigit
    change c.toNat - 48 < 16
    omega
  split at hc
  next hsmall =>
    cases hc
    change 97 ≤ c.toNat ∧ c.toNat ≤ 102 at hsmall
    change c.toNat - 97 + 10 < 16
    omega
  split at hc
  next hlarge =>
    cases hc
    change 65 ≤ c.toNat ∧ c.toNat ≤ 70 at hlarge
    change c.toNat - 65 + 10 < 16
    omega
  next => cases hc

theorem isDigitOf_of_hexValue? {c : Char} {value : Nat} (hc : hexValue? c = some value) :
    isDigitOf 16 c = true := by
  simp [isDigitOf, hc, hexValue?_lt hc]

theorem exists_of_fourHexDigits? {text rest : List Char} {n : Nat}
    (hread : fourHexDigits? text = some (n, rest)) :
    ∃ digits, text = digits ++ rest ∧ WritesHex n digits := by
  unfold fourHexDigits? at hread
  split at hread
  next a b c d more =>
    simp only [Option.bind_eq_bind, Option.bind_eq_some_iff] at hread
    obtain ⟨va, ha, vb, hb, vc, hc, vd, hd, hread⟩ := hread
    cases hread
    refine ⟨[a, b, c, d], rfl, rfl, ?_, ?_⟩
    · simp [isDigitOf_of_hexValue? ha, isDigitOf_of_hexValue? hb, isDigitOf_of_hexValue? hc,
        isDigitOf_of_hexValue? hd]
    · simp [numeral, numeralFrom, ha, hb, hc, hd]
  next => cases hread

theorem exists_of_hexEscape {text rest : List Char} {n : Nat}
    (hread : hexEscape text = .ok (n, rest)) :
    ∃ digits, text = digits ++ rest ∧ WritesHex n digits := by
  unfold hexEscape at hread
  split at hread
  next found hfound =>
    cases hread
    exact exists_of_fourHexDigits? hfound
  next =>
    split at hread <;> cases hread

theorem WritesHex.lt {n : Nat} {digits : List Char} (hdigits : WritesHex n digits) :
    n < 0x10000 := by
  obtain ⟨hlength, hhex, rfl⟩ := hdigits
  match digits, hlength with
  | [a, b, c, d], _ =>
      obtain ⟨va, ha⟩ := hexValue?_of_isDigitOf (hhex a (by simp))
      obtain ⟨vb, hb⟩ := hexValue?_of_isDigitOf (hhex b (by simp))
      obtain ⟨vc, hc⟩ := hexValue?_of_isDigitOf (hhex c (by simp))
      obtain ⟨vd, hd⟩ := hexValue?_of_isDigitOf (hhex d (by simp))
      have hva := hexValue?_lt ha
      have hvb := hexValue?_lt hb
      have hvc := hexValue?_lt hc
      have hvd := hexValue?_lt hd
      simp only [numeral, numeralFrom, List.foldl_cons, List.foldl_nil, ha, hb, hc, hd,
        Option.getD_some]
      omega

theorem toNat_ofNat {n : Nat} (hn : n < 0xD800 ∨ 0xDFFF < n ∧ n < 0x110000) :
    (Char.ofNat n).toNat = n := by
  have hvalid : n.isValidChar := hn
  rw [Char.ofNat, dif_pos hvalid]
  rfl

theorem eq_cons_of_surrogateMark {mark : Char} {text rest : List Char}
    (hread : surrogateMark mark text = .ok rest) : text = mark :: rest := by
  unfold surrogateMark at hread
  split at hread
  next => cases hread
  next c more =>
    split at hread
    next hmark =>
      cases hread
      rw [hmark]
    next => cases hread

theorem writesChar_unit
    {n : Nat} {digits : List Char} (hdigits : WritesHex n digits)
    (htrailing : ¬ isTrailingSurrogate n = true) (hleading : ¬ isLeadingSurrogate n = true) :
    WritesChar (Char.ofNat n) ('\\' :: 'u' :: digits) := by
  have hlimit := hdigits.lt
  simp only [isTrailingSurrogate, isLeadingSurrogate, Bool.and_eq_true, decide_eq_true_eq]
    at htrailing hleading
  have hvalue : (Char.ofNat n).toNat = n := toNat_ofNat (by omega)
  refine .unit ?_
  rwa [hvalue]

/-- The halves of a surrogate pair are those of the character that they make. -/
theorem writesChar_pair
    {first second : Nat} {leading trailing : List Char} (hfirst : WritesHex first leading)
    (hsecond : WritesHex second trailing) (hleading : isLeadingSurrogate first = true)
    (htrailing : isTrailingSurrogate second = true) :
    WritesChar (Char.ofNat ((first - 0xD800) * 0x400 + (second - 0xDC00) + 0x10000))
      ('\\' :: 'u' :: (leading ++ '\\' :: 'u' :: trailing)) := by
  simp only [isTrailingSurrogate, isLeadingSurrogate, Bool.and_eq_true, decide_eq_true_eq]
    at htrailing hleading
  generalize hn : (first - 0xD800) * 0x400 + (second - 0xDC00) + 0x10000 = n
  have hvalue : (Char.ofNat n).toNat = n := toNat_ofNat (by omega)
  have hupper : 0xD800 + (n - 0x10000) / 0x400 = first := by omega
  have hlower : 0xDC00 + (n - 0x10000) % 0x400 = second := by omega
  refine .pair ?_ ?_ ?_
  · rw [hvalue]
    omega
  · rwa [hvalue, hupper]
  · rwa [hvalue, hlower]

theorem exists_of_unicodeEscape {text rest : List Char} {c : Char}
    (hread : unicodeEscape text = .ok (c, rest)) :
    ∃ piece, text = piece ++ rest ∧ WritesChar c ('\\' :: 'u' :: piece) := by
  unfold unicodeEscape at hread
  obtain ⟨⟨first, behind⟩, hfirst, hbehind⟩ := exists_of_bind_eq_ok hread
  obtain ⟨digits, rfl, hdigits⟩ := exists_of_hexEscape hfirst
  simp only at hbehind
  split at hbehind
  · cases hbehind
  split at hbehind
  next hleading =>
    obtain ⟨_, hbackslash, hmarked⟩ := exists_of_bind_eq_ok hbehind
    obtain ⟨_, hletter, hescaped⟩ := exists_of_bind_eq_ok hmarked
    obtain ⟨⟨second, after⟩, hsecond, hafter⟩ := exists_of_bind_eq_ok hescaped
    obtain rfl := eq_cons_of_surrogateMark hbackslash
    obtain rfl := eq_cons_of_surrogateMark hletter
    obtain ⟨digits', rfl, hdigits'⟩ := exists_of_hexEscape hsecond
    simp only at hafter
    split at hafter
    next htrailing =>
      obtain ⟨rfl, rfl⟩ := Prod.mk.inj (Except.ok.inj hafter)
      exact ⟨digits ++ '\\' :: 'u' :: digits', by simp,
        writesChar_pair hdigits hdigits' hleading htrailing⟩
    next => cases hafter
  next htrailing hleading =>
    obtain ⟨rfl, rfl⟩ := Prod.mk.inj (Except.ok.inj hbehind)
    exact ⟨digits, rfl, writesChar_unit hdigits htrailing hleading⟩

/-- Behind a backslash stands a letter of the table or the one for a number. -/
theorem escape_cons (letter : Char) (rest : List Char) :
    escape (letter :: rest) =
      match shortEscapes.lookup letter with
      | some c => .ok (c, rest)
      | none =>
          if letter = 'u' then unicodeEscape rest else stopIn .invalidEscape (letter :: rest) := by
  by_cases hletter : letter ∈ shortEscapes.map Prod.fst
  · simp only [shortEscapes, List.map_cons, List.map_nil, List.mem_cons, List.not_mem_nil,
      or_false] at hletter
    rcases hletter with rfl | rfl | rfl | rfl | rfl | rfl | rfl | rfl <;> rfl
  · have hnone : shortEscapes.lookup letter = none := by
      rw [List.lookup_eq_none_iff]
      intro entry hentry
      exact bne_iff_ne.mpr fun hsame => hletter (hsame ▸ List.mem_map_of_mem hentry)
    rw [hnone]
    simp only [shortEscapes, List.map_cons, List.map_nil, List.mem_cons, List.not_mem_nil,
      or_false, not_or] at hletter
    simp [escape, hletter]

theorem exists_of_escape {text rest : List Char} {c : Char}
    (hread : escape text = .ok (c, rest)) :
    ∃ piece, text = piece ++ rest ∧ WritesChar c ('\\' :: piece) := by
  cases text with
  | nil => cases hread
  | cons letter more =>
      rw [escape_cons] at hread
      split at hread
      next found hfound =>
        obtain ⟨rfl, rfl⟩ := Prod.mk.inj (Except.ok.inj hread)
        obtain ⟨before, after, htable, -⟩ := List.lookup_eq_some_iff.mp hfound
        exact ⟨[letter], rfl, .short (htable ▸ by simp)⟩
      next =>
        split at hread
        next hletter =>
          obtain ⟨piece, rfl, hpiece⟩ := exists_of_unicodeEscape hread
          exact ⟨letter :: piece, rfl, hletter ▸ hpiece⟩
        next => cases hread

theorem exists_of_stringBody {fuel : Nat} {text rest chars : List Char}
    (hread : stringBody fuel text = .ok (chars, rest)) :
    ∃ body, text = body ++ '"' :: rest ∧ WritesChars chars body := by
  induction fuel generalizing text chars with
  | zero => cases hread
  | succ fuel ih =>
      cases text with
      | nil => cases hread
      | cons c more =>
          rw [stringBody] at hread
          split at hread
          next hquote =>
            obtain ⟨rfl, rfl⟩ := Prod.mk.inj (Except.ok.inj hread)
            exact ⟨[], congrArg (· :: _) hquote, .nil⟩
          next hquote =>
          split at hread
          next hbackslash =>
            obtain ⟨⟨escaped, behind⟩, hescape, hbehind⟩ := exists_of_bind_eq_ok hread
            obtain ⟨⟨body, after⟩, hbody, hafter⟩ := exists_of_bind_eq_ok hbehind
            obtain ⟨rfl, rfl⟩ := Prod.mk.inj (Except.ok.inj hafter)
            obtain ⟨piece, rfl, hpiece⟩ := exists_of_escape hescape
            obtain ⟨text, rfl, hchars⟩ := ih hbody
            exact ⟨c :: piece ++ text, by simp, .cons (hbackslash ▸ hpiece) hchars⟩
          next hbackslash =>
          split at hread
          next => cases hread
          next hcontrol =>
            obtain ⟨⟨body, after⟩, hbody, hafter⟩ := exists_of_bind_eq_ok hread
            obtain ⟨rfl, rfl⟩ := Prod.mk.inj (Except.ok.inj hafter)
            obtain ⟨text, rfl, hchars⟩ := ih hbody
            have hplain := WritesChar.plain hquote hbackslash (Nat.not_lt.mp hcontrol)
            exact ⟨[c] ++ text, rfl, .cons hplain hchars⟩

/-- Where a string is read behind its opening quote, the text with that quote writes it. -/
theorem exists_of_string {text rest : List Char} {s : String}
    (hread : string text = .ok (s, rest)) :
    ∃ quoted, '"' :: text = quoted ++ rest ∧ WritesString s quoted := by
  unfold string at hread
  obtain ⟨⟨body, after⟩, hbody, hafter⟩ := exists_of_bind_eq_ok hread
  obtain ⟨rfl, rfl⟩ := Prod.mk.inj (Except.ok.inj hafter)
  obtain ⟨piece, rfl, hchars⟩ := exists_of_stringBody hbody
  refine ⟨'"' :: (piece ++ ['"']), by simp, .quoted ?_⟩
  rwa [String.toList_ofList]

/-! ## Values -/

theorem exists_of_word {value v : Json} {letters text rest : List Char}
    (hread : word value letters text = .ok (v, rest)) : v = value ∧ text = letters ++ rest := by
  induction letters generalizing text with
  | nil =>
      cases hread
      exact ⟨rfl, rfl⟩
  | cons letter letters ih =>
      cases text with
      | nil => cases hread
      | cons c text =>
          rw [word] at hread
          split at hread
          next hletter =>
            obtain ⟨rfl, rfl⟩ := ih hread
            exact ⟨rfl, congrArg (· :: _) hletter⟩
          next => cases hread

theorem exists_spaces_skipSpaces (text : List Char) :
    ∃ spaces, text = spaces ++ skipSpaces text ∧ IsSpaces spaces :=
  ⟨text.takeWhile isSpace, List.takeWhile_append_dropWhile.symm,
    List.all_eq_true.mp List.all_takeWhile⟩

theorem exists_of_colon {text rest : List Char} (hread : colon text = .ok rest) :
    ∃ before, text = before ++ ':' :: rest ∧ IsSpaces before := by
  obtain ⟨before, htext, hbefore⟩ := exists_spaces_skipSpaces text
  unfold colon at hread
  split at hread
  next => cases hread
  next c more hskip =>
    split at hread
    next hcolon =>
      cases hread
      exact ⟨before, by rw [htext, hskip, hcolon], hbefore⟩
    next => cases hread

theorem IsSpaces.append {spaces more : List Char} (hspaces : IsSpaces spaces)
    (hmore : IsSpaces more) : IsSpaces (spaces ++ more) :=
  List.forall_mem_append.mpr ⟨hspaces, hmore⟩

theorem IsLead.append {first : Bool} {lead spaces : List Char} (hlead : IsLead first lead)
    (hspaces : IsSpaces spaces) : IsLead first (lead ++ spaces) := by
  cases hlead with
  | first hfirst => exact .first (hfirst.append hspaces)
  | next hbefore hafter =>
      rw [List.append_assoc, List.cons_append]
      exact .next hbefore (hafter.append hspaces)

theorem exists_of_listMark {first : Bool} {text : List Char} {mark : ListMark}
    (hread : listMark first text = .ok mark) :
    (∃ spaces rest, mark = .finish rest ∧ text = spaces ++ ']' :: rest ∧ IsSpaces spaces) ∨
      ∃ lead rest, mark = .item rest ∧ text = lead ++ rest ∧ IsLead first lead := by
  obtain ⟨before, htext, hbefore⟩ := exists_spaces_skipSpaces text
  unfold listMark at hread
  split at hread
  next => cases hread
  next rest hskip =>
    cases hread
    exact .inl ⟨before, rest, rfl, hskip ▸ htext, hbefore⟩
  next c rest _ hskip =>
    rw [hskip] at htext
    split at hread
    next hfirst =>
      cases hread
      exact .inr ⟨before, _, rfl, htext, hfirst ▸ .first hbefore⟩
    next hfirst =>
      obtain rfl := Bool.eq_false_iff.mpr hfirst
      split at hread
      next hcomma =>
        obtain ⟨after, hrest, hafter⟩ := exists_spaces_skipSpaces rest
        split at hread
        next => cases hread
        next => cases hread
        next =>
          cases hread
          refine .inr ⟨before ++ ',' :: after, _, rfl, ?_, .next hbefore hafter⟩
          rw [htext, hcomma, List.append_assoc, List.cons_append, ← hrest]
      next => cases hread

theorem exists_of_objectMark {first : Bool} {text : List Char} {mark : ListMark}
    (hread : objectMark first text = .ok mark) :
    (∃ spaces rest, mark = .finish rest ∧ text = spaces ++ '\x7d' :: rest ∧ IsSpaces spaces) ∨
      ∃ lead rest, mark = .item rest ∧ text = lead ++ '"' :: rest ∧ IsLead first lead := by
  obtain ⟨before, htext, hbefore⟩ := exists_spaces_skipSpaces text
  unfold objectMark at hread
  split at hread
  next => cases hread
  next rest hskip =>
    cases hread
    exact .inl ⟨before, rest, rfl, hskip ▸ htext, hbefore⟩
  next c rest _ hskip =>
    rw [hskip] at htext
    split at hread
    next hfirst =>
      split at hread
      next hquote =>
        cases hread
        exact .inr ⟨before, rest, rfl, hquote ▸ htext, hfirst ▸ .first hbefore⟩
      next => cases hread
    next hfirst =>
      obtain rfl := Bool.eq_false_iff.mpr hfirst
      split at hread
      next hcomma =>
        obtain ⟨after, hrest, hafter⟩ := exists_spaces_skipSpaces rest
        split at hread
        next => cases hread
        next name hname =>
          cases hread
          refine .inr ⟨before ++ ',' :: after, _, rfl, ?_, .next hbefore hafter⟩
          rw [htext, hcomma, List.append_assoc, List.cons_append, ← hname, ← hrest]
        next => cases hread
        next => cases hread
      next => cases hread

/-! ## Levels of fuel -/

def WritesValues (fuel : Nat) : Prop :=
  ∀ {depth : Nat} {text rest : List Char} {v : Json},
    value fuel depth text = .ok (v, rest) → StopsAt isNumberPart rest →
      ∃ spaces piece, text = spaces ++ (piece ++ rest) ∧ IsSpaces spaces ∧
        Writes depth (.value v) piece

def WritesItems (fuel : Nat) : Prop :=
  ∀ {depth : Nat} {first : Bool} {text rest : List Char} {found : List Json},
    items fuel depth first text = .ok (found, rest) →
      ∃ piece, text = piece ++ rest ∧ Writes depth (.items first found) piece

def WritesMembers (fuel : Nat) : Prop :=
  ∀ {depth : Nat} {first : Bool} {before found : List (String × Json)} {text rest : List Char},
    members fuel depth first before text = .ok (found, rest) →
      ∃ added piece, text = piece ++ rest ∧ Writes depth (.members first added) piece ∧
        found = added.foldl (fun sorted m => Json.insertMember m.1 m.2 sorted) before

variable {fuel : Nat}

theorem writesItems_succ (hvalues : WritesValues fuel) (hitems : WritesItems fuel) :
    WritesItems (fuel + 1) := by
  intro depth first text rest found hread
  rw [items] at hread
  obtain ⟨mark, hmark, hmarked⟩ := exists_of_bind_eq_ok hread
  obtain ⟨spaces, behind, rfl, rfl, hspaces⟩ | ⟨lead, behind, rfl, rfl, hlead⟩ :=
    exists_of_listMark hmark
  · obtain ⟨rfl, rfl⟩ := Prod.mk.inj (Except.ok.inj hmarked)
    exact ⟨spaces ++ [']'], by simp, .noItem hspaces⟩
  · obtain ⟨⟨v, after⟩, hvalue, hafter⟩ := exists_of_bind_eq_ok hmarked
    obtain ⟨⟨others, left⟩, hothers, hleft⟩ := exists_of_bind_eq_ok hafter
    obtain ⟨rfl, rfl⟩ := Prod.mk.inj (Except.ok.inj hleft)
    obtain ⟨more, rfl, hmore⟩ := hitems hothers
    obtain ⟨spaces, piece, rfl, hspaces, hpiece⟩ := hvalues hvalue (hmore.stopsAt_items left)
    exact ⟨(lead ++ spaces) ++ (piece ++ more), by simp, .item (hlead.append hspaces) hpiece hmore⟩

theorem writesMembers_succ (hvalues : WritesValues fuel) (hmembers : WritesMembers fuel) :
    WritesMembers (fuel + 1) := by
  intro depth first before found text rest hread
  rw [members] at hread
  obtain ⟨mark, hmark, hmarked⟩ := exists_of_bind_eq_ok hread
  obtain ⟨spaces, behind, rfl, rfl, hspaces⟩ | ⟨lead, behind, rfl, rfl, hlead⟩ :=
    exists_of_objectMark hmark
  · obtain ⟨rfl, rfl⟩ := Prod.mk.inj (Except.ok.inj hmarked)
    exact ⟨[], spaces ++ ['\x7d'], by simp, .noMember hspaces, rfl⟩
  · obtain ⟨⟨name, named⟩, hname, hnamed⟩ := exists_of_bind_eq_ok hmarked
    obtain ⟨behind', hcolon, hbehind'⟩ := exists_of_bind_eq_ok hnamed
    obtain ⟨⟨v, after⟩, hvalue, hafter⟩ := exists_of_bind_eq_ok hbehind'
    obtain ⟨added, more, rfl, hmore, rfl⟩ := hmembers hafter
    obtain ⟨spaces, piece, rfl, hspaces, hpiece⟩ := hvalues hvalue (hmore.stopsAt_members rest)
    obtain ⟨between, rfl, hbetween⟩ := exists_of_colon hcolon
    obtain ⟨quoted, hquoted, hwritten⟩ := exists_of_string hname
    refine ⟨(name, v) :: added, _, ?_, .member hlead hwritten hbetween hspaces hpiece hmore, rfl⟩
    rw [hquoted]
    simp

theorem writesValues_succ (hitems : WritesItems fuel) (hmembers : WritesMembers fuel) :
    WritesValues (fuel + 1) := by
  intro depth text rest v hread hrest
  obtain ⟨spaces, htext, hspaces⟩ := exists_spaces_skipSpaces text
  suffices hpiece : ∃ piece, skipSpaces text = piece ++ rest ∧ Writes depth (.value v) piece by
    obtain ⟨piece, hskip, hpiece⟩ := hpiece
    exact ⟨spaces, piece, hskip ▸ htext, hspaces, hpiece⟩
  rw [value] at hread
  split at hread
  next => cases hread
  next more hskip =>
    obtain ⟨rfl, rfl⟩ := exists_of_word hread
    exact ⟨_, hskip, .null⟩
  next more hskip =>
    obtain ⟨rfl, rfl⟩ := exists_of_word hread
    exact ⟨_, hskip, .yes⟩
  next more hskip =>
    obtain ⟨rfl, rfl⟩ := exists_of_word hread
    exact ⟨_, hskip, .no⟩
  next more hskip =>
    obtain ⟨⟨n, after⟩, hnumber, hafter⟩ := exists_of_bind_eq_ok hread
    obtain ⟨rfl, rfl⟩ := Prod.mk.inj (Except.ok.inj hafter)
    obtain ⟨piece, rfl, hunsigned, halone⟩ := exists_of_number_eq_ok hnumber hrest
    exact ⟨'-' :: piece, hskip, .number (.signed hunsigned halone)⟩
  next more hskip =>
    obtain ⟨⟨s, after⟩, hstring, hafter⟩ := exists_of_bind_eq_ok hread
    obtain ⟨rfl, rfl⟩ := Prod.mk.inj (Except.ok.inj hafter)
    obtain ⟨quoted, hquoted, hwritten⟩ := exists_of_string hstring
    exact ⟨quoted, hquoted ▸ hskip, .string hwritten⟩
  next more hskip =>
    cases depth with
    | zero => cases hread
    | succ depth =>
        obtain ⟨⟨found, after⟩, hfound, hafter⟩ := exists_of_bind_eq_ok hread
        obtain ⟨rfl, rfl⟩ := Prod.mk.inj (Except.ok.inj hafter)
        obtain ⟨piece, rfl, hpiece⟩ := hitems hfound
        exact ⟨'[' :: piece, hskip, .array hpiece⟩
  next more hskip =>
    cases depth with
    | zero => cases hread
    | succ depth =>
        obtain ⟨⟨found, after⟩, hfound, hafter⟩ := exists_of_bind_eq_ok hread
        obtain ⟨rfl, rfl⟩ := Prod.mk.inj (Except.ok.inj hafter)
        obtain ⟨added, piece, rfl, hpiece, rfl⟩ := hmembers hfound
        exact ⟨'\x7b' :: piece, hskip, .object hpiece⟩
  next c more _ _ _ _ _ _ _ hskip =>
    split at hread
    next hdigit =>
      obtain ⟨⟨n, after⟩, hnumber, hafter⟩ := exists_of_bind_eq_ok hread
      obtain ⟨rfl, rfl⟩ := Prod.mk.inj (Except.ok.inj hafter)
      obtain ⟨piece, hsplit, hunsigned, halone⟩ := exists_of_number_eq_ok hnumber hrest
      exact ⟨piece, hsplit ▸ hskip, .number (.unsigned hunsigned halone)⟩
    next => cases hread

theorem writes_of_fuel (fuel : Nat) :
    WritesValues fuel ∧ WritesItems fuel ∧ WritesMembers fuel := by
  induction fuel with
  | zero => exact ⟨nofun, nofun, nofun⟩
  | succ fuel ih =>
      obtain ⟨hvalues, hitems, hmembers⟩ := ih
      exact ⟨writesValues_succ hitems hmembers, writesItems_succ hvalues hitems,
        writesMembers_succ hvalues hmembers⟩

end CardReboot.JsonReader

namespace CardReboot.Json

open JsonReader

/-- A text is read exactly when it writes a value within the limits of the reader, with spaces
around it. -/
theorem read_eq_ok_iff {text : List Char} {v : Json} :
    read text = .ok v ↔
      ∃ before piece after, text = before ++ (piece ++ after) ∧ IsSpaces before ∧
        IsSpaces after ∧ Writes depthLimit (.value v) piece := by
  constructor
  · intro hread
    obtain ⟨⟨found, after⟩, hvalue, hend⟩ := exists_of_bind_eq_ok hread
    obtain ⟨spaces, hafter, hspaces⟩ := exists_spaces_skipSpaces after
    simp only at hend
    split at hend
    next hskip =>
      obtain rfl := Except.ok.inj hend
      rw [hskip, List.append_nil] at hafter
      obtain rfl := hafter
      obtain ⟨before, piece, htext, hbefore, hpiece⟩ :=
        (writes_of_fuel _).1 hvalue hspaces.stopsAt
      exact ⟨before, piece, after, htext, hbefore, hspaces, hpiece⟩
    next => cases hend
  · intro hwritten
    obtain ⟨before, piece, after, rfl, hbefore, hafter, hpiece⟩ := hwritten
    exact read_append hbefore hpiece hafter

end CardReboot.Json
