import CardReboot.Proofs.TableReading

/-!
# The names of table rows

The name of a row may hold blanks, so a gap can be taken for a name, and then nothing is
left of it when it is trimmed.  A line of five columns is read with a name.  A line
without its name column, and nothing else missing, is read all the same when the gap in
its place is three blanks wide, as a record with an empty name.  With any other column
missing, or with a narrower gap, the line is malformed.
-/

namespace CardReboot

namespace Text

/-! ## Words -/

/-- The words of a text that blanks set apart. -/
def words (text : List Char) : List (List Char) :=
  (text.splitOnP isBlank).filter fun word => !word.isEmpty

theorem words_append_cons
    (front : List Char) {c : Char} (hc : isBlank c = true) (rest : List Char) :
    words (front ++ c :: rest) = words front ++ words rest := by
  rw [words, List.splitOnP_append_cons front rest hc, List.filter_append]
  rfl

theorem words_blank_append
    {blanks : List Char} (hblanks : ∀ c ∈ blanks, isBlank c = true) (rest : List Char) :
    words (blanks ++ rest) = words rest := by
  induction blanks with
  | nil => rfl
  | cons c blanks ih =>
      obtain ⟨hc, hblanks⟩ := List.forall_mem_cons.mp hblanks
      have hfirst := words_append_cons [] hc (blanks ++ rest)
      have hnothing : words [] = [] := rfl
      rw [List.nil_append, hnothing, List.nil_append, ih hblanks] at hfirst
      exact hfirst

theorem words_gap
    (front : List Char) {gap : List Char} (hgap : IsGap gap) (rest : List Char) :
    words (front ++ (gap ++ rest)) = words front ++ words rest := by
  obtain ⟨hne, hblanks⟩ := hgap
  cases gap with
  | nil => exact absurd rfl hne
  | cons c gap =>
      obtain ⟨hc, hblanks⟩ := List.forall_mem_cons.mp hblanks
      rw [List.cons_append, words_append_cons front hc, words_blank_append hblanks]

theorem words_digits {text : List Char} (hdigits : IsDigits text) : words text = [text] := by
  have hnone : ∀ c ∈ text, isBlank c = false :=
    fun c hc => isBlank_eq_false_of_isDigit (hdigits.2 c hc)
  rw [words, List.splitOnP_eq_singleton hnone]
  simp [hdigits.1]

theorem length_words_pos {text : List Char} (hblank : isBlankText text = false) :
    0 < (words text).length := by
  induction text with
  | nil => cases hblank
  | cons c text ih =>
      by_cases hc : isBlank c = true
      · have hrest : isBlankText text = false := by simpa [isBlankText, hc] using hblank
        have hblank : ∀ d ∈ [c], isBlank d = true := by simpa using hc
        have hskip := words_blank_append hblank text
        rw [List.singleton_append] at hskip
        rw [hskip]
        exact ih hrest
      · have hstart : (c :: text).splitOnP isBlank =
            (text.splitOnP isBlank).modifyHead (c :: ·) := by
          rw [List.splitOnP_cons_eq_if_modifyHead, if_neg hc]
        rw [words, hstart]
        cases hmore : text.splitOnP isBlank with
        | nil => exact absurd hmore (List.splitOnP_ne_nil isBlank text)
        | cons word more => simp

/-! ## Trimmed texts -/

theorem stopsAt_trim (text : List Char) : StopsAt isBlank (trim text) := by
  have hleft : StopsAt isBlank (trimLeft text) := stopsAt_dropWhile isBlank text
  intro c hc
  refine hleft c ?_
  rw [trimLeft_eq_trim_append, List.head?_append, hc]
  rfl

theorem stopsAt_reverse_trim (text : List Char) : StopsAt isBlank (trim text).reverse := by
  rw [trim, trimRight, List.reverse_reverse]
  exact stopsAt_dropWhile isBlank (trimLeft text).reverse

theorem isBlankText_of_trim_eq_nil {text : List Char} (htrim : trim text = []) :
    isBlankText text = true := by
  obtain ⟨before, after, htext, hbefore, hafter⟩ := exists_eq_append_trim text
  rw [htrim, List.nil_append] at htext
  rw [htext]
  exact List.all_eq_true.mpr (List.forall_mem_append.mpr ⟨hbefore, hafter⟩)

theorem isBlankText_eq_false_of_stopsAt
    {text : List Char} (hne : text ≠ []) (hstop : StopsAt isBlank text) :
    isBlankText text = false := by
  cases text with
  | nil => exact absurd rfl hne
  | cons c text => simp [isBlankText, hstop c rfl]

end Text

namespace TrapTable

open Text

/-! ## Lines with and without a name -/

/-- The line begins with a row whose name is more than blanks. -/
def BeginsNamed (text : List Char) : Prop :=
  ∃ (l : RowLayout) (rest : List Char), text = l.text ++ rest ∧ l.IsRow ∧
    isBlankText l.name = false

/-- The line begins with a row that lacks the name.  Such a row has three blanks at
least in the place of the name. -/
def BeginsNameless (text : List Char) : Prop :=
  ∃ (l : RowLayout) (rest : List Char), text = l.text ++ rest ∧ l.IsRow ∧ l.name = []

/-- The columns of a row are words of its line, but for what follows the rate. -/
theorem RowLayout.IsRow.words_eq {l : RowLayout} (hrow : l.IsRow) (rest : List Char) :
    words (l.text ++ rest) =
      [l.device, l.trapCode] ++ (words l.name ++ (l.count :: words (l.rate ++ rest))) := by
  rw [l.text_append, words_blank_append hrow.margin, words_gap _ hrow.afterDevice,
    words_gap _ hrow.afterTrapCode, words_gap _ hrow.afterName, words_gap _ hrow.afterCount,
    words_digits hrow.device, words_digits hrow.trapCode, words_digits hrow.count]
  rfl

theorem RowLayout.IsRow.length_words {l : RowLayout} (hrow : l.IsRow) (rest : List Char) :
    (words l.name).length + 4 ≤ (words (l.text ++ rest)).length := by
  have hrate : isBlankText (l.rate ++ rest) = false := by
    have hne : l.rate ++ rest ≠ [] := by simp [hrow.rate.1]
    exact isBlankText_eq_false_of_stopsAt hne (hrow.rate.stopsAt_isBlank rest)
  have hlast := length_words_pos hrate
  rw [hrow.words_eq]
  simp only [List.length_append, List.length_cons, List.length_nil]
  omega

theorem BeginsNamed.length_words {text : List Char} (hnamed : BeginsNamed text) :
    5 ≤ (words text).length := by
  obtain ⟨l, rest, rfl, hrow, hname⟩ := hnamed
  have hword := length_words_pos hname
  have hall := hrow.length_words rest
  omega

theorem BeginsNameless.length_words {text : List Char} (hnameless : BeginsNameless text) :
    4 ≤ (words text).length := by
  obtain ⟨l, rest, rfl, hrow, -⟩ := hnameless
  have hall := hrow.length_words rest
  omega

/-! ## The name that is read -/

/-- The blanks at the start of the name can go to the gap before it. -/
theorem BeginsNamed.exists_layout {text : List Char} (hnamed : BeginsNamed text) :
    ∃ (l : RowLayout) (rest : List Char), text = l.text ++ rest ∧ l.IsRow ∧ l.name ≠ [] ∧
      StopsAt isBlank l.name := by
  obtain ⟨l, rest, rfl, hrow, hname⟩ := hnamed
  have hsplit : l.name = l.name.takeWhile isBlank ++ l.name.dropWhile isBlank :=
    List.takeWhile_append_dropWhile.symm
  have hblanks : ∀ c ∈ l.name.takeWhile isBlank, isBlank c = true :=
    List.all_eq_true.mp List.all_takeWhile
  have hne : l.name.dropWhile isBlank ≠ [] := by
    intro hnil
    have hall : isBlankText l.name = true := by
      rw [hsplit, hnil, List.append_nil]
      exact List.all_takeWhile
    rw [hname] at hall
    cases hall
  have hgap : IsGap (l.afterTrapCode ++ l.name.takeWhile isBlank) :=
    ⟨by simp [hrow.afterTrapCode.1],
      List.forall_mem_append.mpr ⟨hrow.afterTrapCode.2, hblanks⟩⟩
  let shifted : RowLayout := { l with
    afterTrapCode := l.afterTrapCode ++ l.name.takeWhile isBlank
    name := l.name.dropWhile isBlank }
  have htext : l.text ++ rest = shifted.text ++ rest := by
    rw [l.text_append, shifted.text_append]
    conv_lhs => rw [hsplit]
    simp only [shifted, List.append_assoc]
  have hshifted : shifted.IsRow := { hrow with
    afterTrapCode := hgap
    name := fun c hc => hrow.name c (List.dropWhile_subset _ hc)
    room := fun hnil => absurd hnil hne }
  exact ⟨shifted, rest, htext, hshifted, hne, stopsAt_dropWhile isBlank l.name⟩

/-- The gap is skipped as a whole, so the name is read from its first character on. -/
theorem exists_columns_of_beginsNamed {text : List Char} (hnamed : BeginsNamed text) :
    ∃ columns, columns? text = some columns ∧ trim columns.name ≠ [] := by
  obtain ⟨l, rest, rfl, hrow, hne, hstart⟩ := hnamed.exists_layout
  have hread := isSome_nameThenNumbers? hne hrow.name
    (isSome_countAndRate? hrow.afterName hrow.count hrow.afterCount hrow.rate rest)
  obtain ⟨⟨name, numbers⟩, hfound⟩ := Option.isSome_iff_exists.mp hread
  have hstop : StopsAt isBlank (l.name ++ (l.afterName ++ (l.count ++ (l.afterCount ++
      (l.rate ++ rest))))) := by
    intro c hc
    rw [List.head?_append_of_ne_nil _ hne] at hc
    exact hstart c hc
  have hcolumns := columns?_append hrow.margin hrow.device hrow.afterDevice hrow.trapCode
    (hrow.afterTrapCode.stopsAt_isDigit (l.name ++ (l.afterName ++ (l.count ++ (l.afterCount ++
      (l.rate ++ rest))))))
  rw [← l.text_append, gapThenName?_append hrow.afterTrapCode hstop hfound] at hcolumns
  refine ⟨_, hcolumns, ?_⟩
  intro htrim
  obtain ⟨more, hmore, hfirst, -, -⟩ := exists_of_nameThenNumbers? hfound
  have hnameStart : StopsAt isBlank name := by
    rw [hmore] at hstop
    exact (stopsAt_append_iff hfirst).mp hstop
  have hblank := isBlankText_of_trim_eq_nil htrim
  rw [isBlankText_eq_false_of_stopsAt hfirst hnameStart] at hblank
  cases hblank

theorem trim_name_ne_nil_iff
    {text : List Char} {columns : Columns} (hcolumns : columns? text = some columns) :
    trim columns.name ≠ [] ↔ BeginsNamed text := by
  constructor
  · intro hname
    obtain ⟨l, rest, htext, hrow, -, -, -, hlayout, -, -⟩ := exists_layout_of_columns? hcolumns
    refine ⟨l, rest, htext, hrow, ?_⟩
    rw [hlayout]
    exact isBlankText_eq_false_of_stopsAt hname (stopsAt_trim columns.name)
  · intro hnamed
    obtain ⟨found, hfound, hname⟩ := exists_columns_of_beginsNamed hnamed
    cases hcolumns.symm.trans hfound
    exact hname

/-- What a line tells of the name of its record. -/
structure NameShown (text : List Char) (r : TrapRecord) : Prop where
  characters : ∀ c ∈ r.name.toList, isNameCharacter c = true
  start : StopsAt isBlank r.name.toList
  finish : StopsAt isBlank r.name.toList.reverse
  named_iff : r.name ≠ "" ↔ BeginsNamed text
  named : r.name ≠ "" → 5 ≤ (words text).length
  nameless : r.name = "" → BeginsNameless text ∧ 4 ≤ (words text).length

theorem nameShown_of_record
    {text : List Char} {columns : Columns} {r : TrapRecord}
    (hcolumns : columns? text = some columns) (hrecord : record columns text = .ok r) :
    NameShown text r := by
  obtain ⟨l, rest, htext, hrow, -, -, -, hlayout, -, -⟩ := exists_layout_of_columns? hcolumns
  obtain ⟨-, -, hname, -, -⟩ := exists_of_record_eq_ok hrecord
  have hcharacters : r.name.toList = trim columns.name := by rw [hname, String.toList_ofList]
  have hempty : r.name = "" ↔ trim columns.name = [] := by
    rw [← hcharacters, String.toList_eq_nil_iff]
  have hnamed : r.name ≠ "" ↔ BeginsNamed text :=
    (not_congr hempty).trans (trim_name_ne_nil_iff hcolumns)
  refine ⟨?_, ?_, ?_, hnamed, fun hne => (hnamed.mp hne).length_words, ?_⟩
  · rw [hcharacters, ← hlayout]
    exact hrow.name
  · rw [hcharacters]
    exact stopsAt_trim columns.name
  · rw [hcharacters]
    exact stopsAt_reverse_trim columns.name
  · intro hnone
    have hnameless : BeginsNameless text :=
      ⟨l, rest, htext, hrow, hlayout.trans (hempty.mp hnone)⟩
    exact ⟨hnameless, hnameless.length_words⟩

/-- Of the lines with less than five columns those are read that lack the name alone and
have room for one. -/
theorem columns?_eq_none_of_few
    {text : List Char} (hfew : (words text).length < 5) :
    columns? text = none ↔ ¬ BeginsNameless text := by
  rw [columns?_eq_none_iff]
  constructor
  · rintro hnone ⟨l, rest, htext, hrow, -⟩
    exact hnone ⟨l, rest, htext, hrow⟩
  · rintro hnameless ⟨l, rest, htext, hrow⟩
    have hread := hrow.isSome_columns? rest
    rw [← htext] at hread
    obtain ⟨columns, hcolumns⟩ := Option.isSome_iff_exists.mp hread
    by_cases hname : trim columns.name = []
    · obtain ⟨l', rest', htext', hrow', -, -, -, hlayout, -, -⟩ :=
        exists_layout_of_columns? hcolumns
      exact hnameless ⟨l', rest', htext', hrow', hlayout.trans hname⟩
    · have hall := ((trim_name_ne_nil_iff hcolumns).mp hname).length_words
      omega

/-- Names are trimmed and made of name characters, and they are empty just for the lines
that do not begin with a named row.  Where all lines before can be read, a row line with
less than five columns makes the table malformed unless it lacks the name alone and has
three blanks in its place. -/
theorem parse_names (output : String) :
    (∀ found, parse output = .ok found →
      List.Forall₂ NameShown ((tableLines output).filter isRowLine) found) ∧
    ∀ before text after, tableLines output = before ++ text :: after →
      (∀ earlier ∈ before, ∃ found, line earlier = .ok found) →
      isRowLine text = true → (words text).length < 5 →
      (parse output = .error (.malformedLine (String.ofList text)) ↔ ¬ BeginsNameless text) := by
  constructor
  · intro found hparse
    exact forall₂_of_record (fun _ _ _ => nameShown_of_record) hparse
  · intro before text after hlines hbefore htext hfew
    rw [parse_eq, records_eq_error_iff, ← columns?_eq_none_of_few hfew]
    simp only [line_eq_malformed_iff]
    constructor
    · rintro ⟨_, text', _, -, -, hsame, -, hcolumns⟩
      rw [String.ofList_injective hsame]
      exact hcolumns
    · intro hcolumns
      exact ⟨before, text, after, hlines, hbefore, rfl, htext, hcolumns⟩

/-- Four numbers with three blanks before the third are read as a record without a name. -/
theorem nameless_row_read :
    parse "DEV\n0 12   100 7" = .ok [⟨0, 12, "", 100, 7⟩] ∧
      ¬ ∀ output found, parse output = .ok found →
        List.Forall₂ (fun text r => r.name ≠ "" ∧ 5 ≤ (words text).length)
          ((tableLines output).filter isRowLine) found := by
  have hparse : parse "DEV\n0 12   100 7" = .ok [⟨0, 12, "", 100, 7⟩] := rfl
  refine ⟨hparse, ?_⟩
  intro hall
  have hrows := hall _ _ hparse
  have hlines : (tableLines "DEV\n0 12   100 7").filter isRowLine =
      ["0 12   100 7".toList] := by rfl
  rw [hlines] at hrows
  cases hrows with
  | cons hrow _ => exact hrow.1 rfl

end TrapTable

end CardReboot
