import CardReboot.Proofs.JsonNumberReading
import CardReboot.Proofs.JsonStringReading

/-!
# Reading JSON

A value is written in many ways: with spaces between its parts, with any writing of its
strings and numbers, and with the members of an object in any order and of one name more than
once.  Whatever the writing, the value is read from it, as long as no more levels of lists and
objects stand inside each other than the reader allows.
-/

namespace CardReboot.JsonReader

open Text

/-! ## How values are written -/

/-- A value, or what is left of a list or of an object up to its end. -/
inductive JsonPiece
  | value (v : Json)
  | items (first : Bool) (items : List Json)
  | members (first : Bool) (members : List (String × Json))

def IsSpaces (text : List Char) : Prop := ∀ c ∈ text, isSpace c = true

/-- What stands before an item: spaces, with a comma among them before each but the first. -/
inductive IsLead : Bool → List Char → Prop
  | first {spaces : List Char} (hspaces : IsSpaces spaces) : IsLead true spaces
  | next {before after : List Char} (hbefore : IsSpaces before) (hafter : IsSpaces after) :
      IsLead false (before ++ ',' :: after)

/-- The text writes the piece with at most so many levels of lists and objects. -/
inductive Writes : Nat → JsonPiece → List Char → Prop
  | null {depth : Nat} : Writes depth (.value .null) ['n', 'u', 'l', 'l']
  | yes {depth : Nat} : Writes depth (.value (.bool true)) ['t', 'r', 'u', 'e']
  | no {depth : Nat} : Writes depth (.value (.bool false)) ['f', 'a', 'l', 's', 'e']
  | number {depth : Nat} {n : JsonNumber} {text : List Char} (hnumber : WritesNumber n text) :
      Writes depth (.value (.number n)) text
  | string {depth : Nat} {s : String} {text : List Char} (hstring : WritesString s text) :
      Writes depth (.value (.string s)) text
  | array {depth : Nat} {items : List Json} {text : List Char}
      (hitems : Writes depth (.items true items) text) :
      Writes (depth + 1) (.value (.array items)) ('[' :: text)
  | object {depth : Nat} {members : List (String × Json)} {text : List Char}
      (hmembers : Writes depth (.members true members) text) :
      Writes (depth + 1) (.value (.ofMembers members)) ('\x7b' :: text)
  | noItem {depth : Nat} {first : Bool} {spaces : List Char} (hspaces : IsSpaces spaces) :
      Writes depth (.items first []) (spaces ++ [']'])
  | item {depth : Nat} {first : Bool} {v : Json} {items : List Json}
      {lead text more : List Char} (hlead : IsLead first lead)
      (hvalue : Writes depth (.value v) text) (hmore : Writes depth (.items false items) more) :
      Writes depth (.items first (v :: items)) (lead ++ (text ++ more))
  | noMember {depth : Nat} {first : Bool} {spaces : List Char} (hspaces : IsSpaces spaces) :
      Writes depth (.members first []) (spaces ++ ['\x7d'])
  | member {depth : Nat} {first : Bool} {name : String} {v : Json}
      {members : List (String × Json)} {lead quoted before after text more : List Char}
      (hlead : IsLead first lead) (hname : WritesString name quoted)
      (hbefore : IsSpaces before) (hafter : IsSpaces after)
      (hvalue : Writes depth (.value v) text)
      (hmore : Writes depth (.members false members) more) :
      Writes depth (.members first ((name, v) :: members))
        (lead ++ (quoted ++ (before ++ ':' :: (after ++ (text ++ more)))))

/-! ## Where pieces begin -/

theorem isNumberPart_eq_false_of_isSpace {c : Char} (hc : isSpace c = true) :
    isNumberPart c = false := by
  simp only [isSpace, Bool.or_eq_true, beq_iff_eq] at hc
  rcases hc with ((rfl | rfl) | rfl) | rfl <;> decide

theorem isBlank_of_isSpace {c : Char} (hc : isSpace c = true) : isBlank c = true := by
  simp only [isSpace, Bool.or_eq_true, beq_iff_eq] at hc
  rcases hc with ((rfl | rfl) | rfl) | rfl <;> decide

theorem isSpace_eq_false_of_not_isBlank {c : Char} (hc : isBlank c = false) :
    isSpace c = false := by
  rw [Bool.eq_false_iff]
  intro hspace
  rw [isBlank_of_isSpace hspace] at hc
  cases hc

theorem isBlank_eq_false_of_isAsciiDigit {c : Char} (hc : isAsciiDigit c = true) :
    isBlank c = false :=
  isBlank_eq_false_of_isDigit (isDigit_of_isAsciiDigit hc)

theorem IsUnsigned.exists_digit {text : List Char} (htext : IsUnsigned text) :
    ∃ c rest, text = c :: rest ∧ isAsciiDigit c = true := by
  obtain @⟨whole, decimals, power, hwhole, -, -⟩ := htext
  obtain ⟨hne, hdigits⟩ := hwhole.numeral
  cases whole with
  | nil => exact absurd rfl hne
  | cons c digits => exact ⟨c, _, rfl, hdigits c List.mem_cons_self⟩

theorem IsUnsigned.isBlank_eq_false {text : List Char} (htext : IsUnsigned text) {c : Char}
    (hc : c ∈ text) : isBlank c = false := by
  obtain @⟨whole, decimals, power, hwhole, hdecimals, hpower⟩ := htext
  rcases List.mem_append.mp hc with hwhole' | hc
  · exact isBlank_eq_false_of_isAsciiDigit (hwhole.numeral.2 c hwhole')
  rcases List.mem_append.mp hc with hdecimals' | hpower'
  · cases hdecimals with
    | none => cases hdecimals'
    | behindPoint hdigits =>
        rcases List.mem_cons.mp hdecimals' with rfl | hdigit
        · decide
        · exact isBlank_eq_false_of_isAsciiDigit (hdigits.2 c hdigit)
  · cases hpower with
    | none => cases hpower'
    | behindMark hmark hsign hdigits =>
        rcases List.mem_cons.mp hpower' with rfl | hpower'
        · rcases hmark with rfl | rfl <;> decide
        rcases List.mem_append.mp hpower' with hsign' | hdigit
        · rcases hsign with rfl | rfl | rfl
          · cases hsign'
          · obtain rfl := List.mem_singleton.mp hsign'
            decide
          · obtain rfl := List.mem_singleton.mp hsign'
            decide
        · exact isBlank_eq_false_of_isAsciiDigit (hdigits.2 c hdigit)

/-- A value begins with a character that is no blank and closes no list. -/
theorem Writes.value_head
    {depth : Nat} {v : Json} {text : List Char} (hvalue : Writes depth (.value v) text) :
    ∃ c rest, text = c :: rest ∧ isBlank c = false ∧ c ≠ ']' := by
  cases hvalue with
  | null => exact ⟨'n', _, rfl, by decide⟩
  | yes => exact ⟨'t', _, rfl, by decide⟩
  | no => exact ⟨'f', _, rfl, by decide⟩
  | number hnumber =>
      cases hnumber with
      | signed => exact ⟨'-', _, rfl, by decide⟩
      | unsigned htext =>
          obtain ⟨c, rest, rfl, hc⟩ := htext.exists_digit
          have hbracket : c ≠ ']' := ne_of_isAsciiDigit hc (by decide)
          exact ⟨c, rest, rfl, isBlank_eq_false_of_isAsciiDigit hc, hbracket⟩
  | string hstring =>
      obtain ⟨-⟩ := hstring
      exact ⟨'"', _, rfl, by decide⟩
  | array => exact ⟨'[', _, rfl, by decide⟩
  | object => exact ⟨'\x7b', _, rfl, by decide⟩

theorem Writes.length_pos {depth : Nat} {piece : JsonPiece} {text : List Char}
    (hwrites : Writes depth piece text) : 0 < text.length := by
  cases piece with
  | value v =>
      obtain ⟨c, rest, rfl, -⟩ := hwrites.value_head
      exact Nat.succ_pos _
  | items first items =>
      cases hwrites with
      | noItem => simp
      | item _ hvalue =>
          obtain ⟨c, rest, rfl, -⟩ := hvalue.value_head
          simp only [List.length_append, List.length_cons]
          omega
  | members first members =>
      cases hwrites with
      | noMember => simp
      | member =>
          simp only [List.length_append, List.length_cons]
          omega

theorem Writes.ne_nil {depth : Nat} {piece : JsonPiece} {text : List Char}
    (hwrites : Writes depth piece text) : text ≠ [] :=
  List.ne_nil_of_length_pos hwrites.length_pos

/-- Nothing that spaces or a mark begin goes on with a number. -/
theorem stopsAt_spaces {spaces : List Char} (hspaces : IsSpaces spaces) {mark : Char}
    (hmark : isNumberPart mark = false) (text : List Char) :
    StopsAt isNumberPart (spaces ++ mark :: text) := by
  cases spaces with
  | nil => exact stopsAt_cons hmark text
  | cons space spaces =>
      exact stopsAt_cons (isNumberPart_eq_false_of_isSpace (hspaces space List.mem_cons_self)) _

theorem IsSpaces.stopsAt {spaces : List Char} (hspaces : IsSpaces spaces) :
    StopsAt isNumberPart spaces :=
  fun c hc => isNumberPart_eq_false_of_isSpace (hspaces c (List.mem_of_head? hc))

theorem IsLead.stopsAt {lead : List Char} (hlead : IsLead false lead) (text : List Char) :
    StopsAt isNumberPart (lead ++ text) := by
  cases hlead with
  | next hbefore =>
      rw [List.append_assoc]
      exact stopsAt_spaces hbefore (by decide) _

theorem Writes.stopsAt_items
    {depth : Nat} {items : List Json} {text : List Char}
    (hitems : Writes depth (.items false items) text) (rest : List Char) :
    StopsAt isNumberPart (text ++ rest) := by
  cases hitems with
  | noItem hspaces =>
      rw [List.append_assoc]
      exact stopsAt_spaces hspaces (by decide) rest
  | item hlead =>
      rw [List.append_assoc]
      exact hlead.stopsAt _

theorem Writes.stopsAt_members
    {depth : Nat} {members : List (String × Json)} {text : List Char}
    (hmembers : Writes depth (.members false members) text) (rest : List Char) :
    StopsAt isNumberPart (text ++ rest) := by
  cases hmembers with
  | noMember hspaces =>
      rw [List.append_assoc]
      exact stopsAt_spaces hspaces (by decide) rest
  | member hlead =>
      rw [List.append_assoc]
      exact hlead.stopsAt _

/-- No piece ends with a blank. -/
theorem Writes.stopsAt_reverse {depth : Nat} {piece : JsonPiece} {text : List Char}
    (hwrites : Writes depth piece text) : StopsAt isBlank text.reverse := by
  induction hwrites with
  | null => exact stopsAt_cons (by decide) _
  | yes => exact stopsAt_cons (by decide) _
  | no => exact stopsAt_cons (by decide) _
  | number hnumber =>
      intro c hc
      have hmem := List.mem_reverse.mp (List.mem_of_head? hc)
      cases hnumber with
      | unsigned htext => exact htext.isBlank_eq_false hmem
      | signed htext =>
          rcases List.mem_cons.mp hmem with rfl | hmem
          · decide
          · exact htext.isBlank_eq_false hmem
  | string hstring =>
      obtain ⟨-⟩ := hstring
      rw [List.reverse_cons, List.reverse_concat]
      exact stopsAt_cons (by decide) _
  | array hitems ih =>
      rw [List.reverse_cons]
      exact (stopsAt_append_iff (by simpa using hitems.ne_nil)).mpr ih
  | object hmembers ih =>
      rw [List.reverse_cons]
      exact (stopsAt_append_iff (by simpa using hmembers.ne_nil)).mpr ih
  | noItem =>
      rw [List.reverse_concat]
      exact stopsAt_cons (by decide) _
  | item _ _ hmore _ ih =>
      simp only [List.reverse_append, List.append_assoc]
      exact (stopsAt_append_iff (by simpa using hmore.ne_nil)).mpr ih
  | noMember =>
      rw [List.reverse_concat]
      exact stopsAt_cons (by decide) _
  | member _ _ _ _ _ hmore _ ih =>
      simp only [List.reverse_append, List.reverse_cons, List.append_assoc]
      exact (stopsAt_append_iff (by simpa using hmore.ne_nil)).mpr ih

theorem Writes.trim_append
    {depth : Nat} {v : Json} {before text after : List Char}
    (hvalue : Writes depth (.value v) text) (hbefore : ∀ c ∈ before, isBlank c = true)
    (hafter : ∀ c ∈ after, isBlank c = true) : trim (before ++ (text ++ after)) = text := by
  have hend := hvalue.stopsAt_reverse
  obtain ⟨c, rest, rfl, hblank, -⟩ := hvalue.value_head
  exact Text.trim_append (List.cons_ne_nil c rest) hbefore hafter (stopsAt_cons hblank rest) hend

/-! ## Spaces -/

theorem skipSpaces_append {spaces : List Char} (hspaces : IsSpaces spaces) (text : List Char) :
    skipSpaces (spaces ++ text) = skipSpaces text :=
  List.dropWhile_append_of_pos hspaces

theorem skipSpaces_cons {c : Char} (hc : isSpace c = false) (text : List Char) :
    skipSpaces (c :: text) = c :: text := by
  simp [skipSpaces, hc]

theorem value_spaces {spaces : List Char} (hspaces : IsSpaces spaces) {fuel : Nat}
    (hfuel : 0 < fuel) (depth : Nat) (text : List Char) :
    value fuel depth (spaces ++ text) = value fuel depth text := by
  cases fuel with
  | zero => exact absurd hfuel (Nat.lt_irrefl 0)
  | succ fuel => simp only [value, skipSpaces_append hspaces]

/-! ## Reading one value -/

section Value

variable (fuel depth : Nat) (rest : List Char)

theorem value_null :
    value (fuel + 1) depth ('n' :: 'u' :: 'l' :: 'l' :: rest) = .ok (.null, rest) := by
  simp [value, skipSpaces, isSpace, word]

theorem value_true :
    value (fuel + 1) depth ('t' :: 'r' :: 'u' :: 'e' :: rest) = .ok (.bool true, rest) := by
  simp [value, skipSpaces, isSpace, word]

theorem value_false :
    value (fuel + 1) depth ('f' :: 'a' :: 'l' :: 's' :: 'e' :: rest) =
      .ok (.bool false, rest) := by
  simp [value, skipSpaces, isSpace, word]

theorem value_string {s : String} {text : List Char} (hstring : WritesString s text) :
    value (fuel + 1) depth (text ++ rest) = .ok (.string s, rest) := by
  obtain ⟨hchars⟩ := hstring
  have hread := string_of_writesChars hchars rest
  have hspace : isSpace '"' = false := by decide
  simp only [List.cons_append, List.append_assoc, List.nil_append, value,
    skipSpaces_cons hspace, hread, bind, Except.bind, pure, Except.pure]

theorem value_signed (text : List Char) :
    value (fuel + 1) depth ('-' :: text) =
      (number false text).map fun found => (.number found.1, found.2) := by
  have hspace : isSpace '-' = false := by decide
  simp only [value, skipSpaces_cons hspace]
  cases number false text <;> rfl

theorem value_unsigned {text : List Char} (htext : IsUnsigned text) :
    value (fuel + 1) depth (text ++ rest) =
      (number true (text ++ rest)).map fun found => (.number found.1, found.2) := by
  obtain ⟨c, digits, rfl, hc⟩ := htext.exists_digit
  have hspace := isSpace_eq_false_of_not_isBlank (isBlank_eq_false_of_isAsciiDigit hc)
  -- A digit is none of the characters that other values begin with.
  have hn : c ≠ 'n' := ne_of_isAsciiDigit hc (by decide)
  have ht : c ≠ 't' := ne_of_isAsciiDigit hc (by decide)
  have hf : c ≠ 'f' := ne_of_isAsciiDigit hc (by decide)
  have hminus : c ≠ '-' := ne_of_isAsciiDigit hc (by decide)
  have hquote : c ≠ '"' := ne_of_isAsciiDigit hc (by decide)
  have hbracket : c ≠ '[' := ne_of_isAsciiDigit hc (by decide)
  have hbrace : c ≠ '\x7b' := ne_of_isAsciiDigit hc (by decide)
  rw [List.cons_append]
  simp only [value, skipSpaces_cons hspace, hc, if_true]
  cases number true (c :: (digits ++ rest)) <;> rfl

theorem value_number {n : JsonNumber} {text : List Char} (hnumber : WritesNumber n text)
    (hrest : StopsAt isNumberPart rest) :
    value (fuel + 1) depth (text ++ rest) = .ok (.number n, rest) := by
  cases hnumber with
  | signed htext hread =>
      rw [List.cons_append, value_signed, (number_append_iff htext hrest).mpr hread]
      rfl
  | unsigned htext hread =>
      rw [value_unsigned fuel depth rest htext, (number_append_iff htext hrest).mpr hread]
      rfl

theorem value_array {items : List Json} {text : List Char}
    (hitems : JsonReader.items fuel depth true text = .ok (items, rest)) :
    value (fuel + 1) (depth + 1) ('[' :: text) = .ok (.array items, rest) := by
  have hspace : isSpace '[' = false := by decide
  simp only [value, skipSpaces_cons hspace, hitems, bind, Except.bind, pure, Except.pure]

theorem value_object {members : List (String × Json)} {text : List Char}
    (hmembers : JsonReader.members fuel depth true [] text = .ok (members, rest)) :
    value (fuel + 1) (depth + 1) ('\x7b' :: text) = .ok (.object members, rest) := by
  have hspace : isSpace '\x7b' = false := by decide
  simp only [value, skipSpaces_cons hspace, hmembers, bind, Except.bind, pure, Except.pure]

end Value

/-! ## Reading lists and objects -/

theorem listMark_finish {spaces : List Char} (hspaces : IsSpaces spaces) (first : Bool)
    (rest : List Char) : listMark first (spaces ++ ']' :: rest) = .ok (.finish rest) := by
  have hbracket : isSpace ']' = false := by decide
  simp only [listMark, skipSpaces_append hspaces, skipSpaces_cons hbracket]

theorem listMark_item
    {first : Bool} {lead : List Char} (hlead : IsLead first lead) {c : Char}
    (hspace : isSpace c = false) (hbracket : c ≠ ']') (rest : List Char) :
    listMark first (lead ++ c :: rest) = .ok (.item (c :: rest)) := by
  cases hlead with
  | first hspaces =>
      simp [listMark, skipSpaces_append hspaces, skipSpaces_cons hspace]
  | next hbefore hafter =>
      have hcomma : isSpace ',' = false := by decide
      simp [listMark, skipSpaces_append hbefore, skipSpaces_append hafter,
        skipSpaces_cons hcomma, skipSpaces_cons hspace, hbracket]

theorem objectMark_finish {spaces : List Char} (hspaces : IsSpaces spaces) (first : Bool)
    (rest : List Char) : objectMark first (spaces ++ '\x7d' :: rest) = .ok (.finish rest) := by
  have hbrace : isSpace '\x7d' = false := by decide
  simp only [objectMark, skipSpaces_append hspaces, skipSpaces_cons hbrace]

theorem objectMark_item
    {first : Bool} {lead : List Char} (hlead : IsLead first lead) (rest : List Char) :
    objectMark first (lead ++ '"' :: rest) = .ok (.item rest) := by
  have hquote : isSpace '"' = false := by decide
  cases hlead with
  | first hspaces =>
      simp [objectMark, skipSpaces_append hspaces, skipSpaces_cons hquote]
  | next hbefore hafter =>
      have hcomma : isSpace ',' = false := by decide
      simp [objectMark, skipSpaces_append hbefore, skipSpaces_append hafter,
        skipSpaces_cons hcomma, skipSpaces_cons hquote]

theorem colon_append {before : List Char} (hbefore : IsSpaces before) (rest : List Char) :
    colon (before ++ ':' :: rest) = .ok rest := by
  have hcolon : isSpace ':' = false := by decide
  simp [colon, skipSpaces_append hbefore, skipSpaces_cons hcolon]

/-! ## Reading what is written -/

/-- The piece is read from the text with any fuel that is larger than the text. -/
def Reads (depth : Nat) : JsonPiece → List Char → Prop
  | .value v, text => ∀ fuel rest, text.length < fuel → StopsAt isNumberPart rest →
      value fuel depth (text ++ rest) = .ok (v, rest)
  | .items first items, text => ∀ fuel rest, text.length < fuel →
      JsonReader.items fuel depth first (text ++ rest) = .ok (items, rest)
  | .members first members, text => ∀ fuel found rest, text.length < fuel →
      JsonReader.members fuel depth first found (text ++ rest) =
        .ok (members.foldl (fun sorted m => Json.insertMember m.1 m.2 sorted) found, rest)

section Pieces

variable {fuel depth : Nat} {first : Bool} {rest : List Char}

theorem items_noItem {spaces : List Char} (hspaces : IsSpaces spaces) :
    items (fuel + 1) depth first (spaces ++ ']' :: rest) = .ok ([], rest) := by
  simp only [items, listMark_finish hspaces, bind, Except.bind, pure, Except.pure]

theorem items_item
    {lead text text' : List Char} {v : Json} {more : List Json} (hlead : IsLead first lead)
    (hhead : ∃ c tail, text = c :: tail ∧ isBlank c = false ∧ c ≠ ']')
    (hvalue : value fuel depth text = .ok (v, text'))
    (hmore : items fuel depth false text' = .ok (more, rest)) :
    items (fuel + 1) depth first (lead ++ text) = .ok (v :: more, rest) := by
  obtain ⟨c, tail, rfl, hblank, hbracket⟩ := hhead
  have hspace := isSpace_eq_false_of_not_isBlank hblank
  simp only [items, listMark_item hlead hspace hbracket, hvalue, hmore, bind, Except.bind, pure,
    Except.pure]

variable {found : List (String × Json)}

theorem members_noMember {spaces : List Char} (hspaces : IsSpaces spaces) :
    members (fuel + 1) depth first found (spaces ++ '\x7d' :: rest) = .ok (found, rest) := by
  simp only [members, objectMark_finish hspaces, bind, Except.bind, pure, Except.pure]

theorem members_member
    {lead quoted before text text' : List Char} {name : String} {v : Json}
    (hlead : IsLead first lead) (hname : WritesString name quoted) (hbefore : IsSpaces before)
    (hvalue : value fuel depth text = .ok (v, text')) :
    members (fuel + 1) depth first found (lead ++ (quoted ++ (before ++ ':' :: text))) =
      members fuel depth false (Json.insertMember name v found) text' := by
  obtain ⟨hchars⟩ := hname
  have hread := string_of_writesChars hchars (before ++ ':' :: text)
  simp only [List.cons_append, List.append_assoc, List.nil_append, members,
    objectMark_item hlead, hread, colon_append hbefore, hvalue, bind, Except.bind]

end Pieces

theorem reads_value
    {depth : Nat} {v : Json} {text : List Char}
    (hread : ∀ fuel rest, text.length ≤ fuel → StopsAt isNumberPart rest →
      value (fuel + 1) depth (text ++ rest) = .ok (v, rest)) :
    Reads depth (.value v) text := by
  intro fuel rest hfuel hrest
  obtain ⟨fuel, rfl⟩ := Nat.exists_eq_succ_of_ne_zero (Nat.ne_zero_of_lt hfuel)
  exact hread fuel rest (Nat.le_of_lt_succ hfuel) hrest

/-- What is written is read.  The fuel is larger than the text of a piece, and each part of
the piece leaves at least one character of the text to the others. -/
theorem Writes.reads {depth : Nat} {piece : JsonPiece} {text : List Char}
    (hwrites : Writes depth piece text) : Reads depth piece text := by
  induction hwrites with
  | @null depth => exact reads_value fun fuel rest _ _ => value_null fuel depth rest
  | @yes depth => exact reads_value fun fuel rest _ _ => value_true fuel depth rest
  | @no depth => exact reads_value fun fuel rest _ _ => value_false fuel depth rest
  | @number depth n text hnumber =>
      exact reads_value fun fuel rest _ hrest => value_number fuel depth rest hnumber hrest
  | @string depth s text hstring =>
      exact reads_value fun fuel rest _ _ => value_string fuel depth rest hstring
  | @array depth items text _ ih =>
      exact reads_value fun fuel rest hfuel _ => value_array fuel depth rest (ih fuel rest hfuel)
  | @object depth members text _ ih =>
      exact reads_value fun fuel rest hfuel _ =>
        value_object fuel depth rest (ih fuel [] rest hfuel)
  | @noItem depth first spaces hspaces =>
      intro fuel rest hfuel
      obtain ⟨fuel, rfl⟩ := Nat.exists_eq_succ_of_ne_zero (Nat.ne_zero_of_lt hfuel)
      rw [List.append_assoc]
      exact items_noItem hspaces
  | @item depth first v items lead text more hlead hvalue hmore ihvalue ihmore =>
      intro fuel rest hfuel
      obtain ⟨fuel, rfl⟩ := Nat.exists_eq_succ_of_ne_zero (Nat.ne_zero_of_lt hfuel)
      have htext := hvalue.length_pos
      have hrest := hmore.length_pos
      simp only [List.length_append] at hfuel
      obtain ⟨c, tail, rfl, hhead⟩ := hvalue.value_head
      rw [List.append_assoc, List.append_assoc]
      apply items_item hlead ⟨c, _, rfl, hhead⟩
      · exact ihvalue fuel (more ++ rest) (by omega) (hmore.stopsAt_items rest)
      · exact ihmore fuel rest (by omega)
  | @noMember depth first spaces hspaces =>
      intro fuel found rest hfuel
      obtain ⟨fuel, rfl⟩ := Nat.exists_eq_succ_of_ne_zero (Nat.ne_zero_of_lt hfuel)
      rw [List.append_assoc]
      exact members_noMember hspaces
  | @member depth first name v members lead quoted before after text more hlead hname hbefore
      hafter hvalue hmore ihvalue ihmore =>
      intro fuel found rest hfuel
      obtain ⟨fuel, rfl⟩ := Nat.exists_eq_succ_of_ne_zero (Nat.ne_zero_of_lt hfuel)
      have htext := hvalue.length_pos
      have hrest := hmore.length_pos
      simp only [List.length_append, List.length_cons] at hfuel
      have hread : value fuel depth (after ++ (text ++ (more ++ rest))) =
          .ok (v, more ++ rest) := by
        rw [value_spaces hafter (by omega)]
        exact ihvalue fuel (more ++ rest) (by omega) (hmore.stopsAt_members rest)
      simp only [List.append_assoc, List.cons_append]
      rw [members_member hlead hname hbefore hread]
      exact ihmore fuel (Json.insertMember name v found) rest (by omega)

end CardReboot.JsonReader

namespace CardReboot.Json

open JsonReader

variable {v : Json} {text before after : List Char}

/-- A value is read from any of its texts, with spaces around it. -/
theorem read_append
    (hbefore : IsSpaces before) (hwrites : Writes depthLimit (.value v) text)
    (hafter : IsSpaces after) : read (before ++ (text ++ after)) = .ok v := by
  have hfuel : text.length < (before ++ (text ++ after)).length + 1 := by
    simp only [List.length_append]
    omega
  have hread := hwrites.reads _ after hfuel hafter.stopsAt
  have hend : skipSpaces after = [] := by
    rw [← List.append_nil after, skipSpaces_append hafter]
    rfl
  rw [read, value_spaces hbefore (Nat.succ_pos _), hread]
  simp only [bind, Except.bind, hend]
  rfl

theorem read_of_writes (hwrites : Writes depthLimit (.value v) text) : read text = .ok v := by
  have hnone : IsSpaces [] := List.forall_mem_nil _
  simpa using read_append hnone hwrites hnone

end CardReboot.Json
