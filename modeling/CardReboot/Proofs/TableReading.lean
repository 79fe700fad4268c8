import CardReboot.Proofs.RowReading
import Mathlib.Data.List.Forall2

/-!
# Reading a table

A table is read line by line, so every record stands for one line that is neither
blank nor a header, and the first line that cannot be read decides the failure.  The
line of a record begins with a row that shows it.  Nothing is said about what follows
the row: a fraction of the rate, or a sixth column, goes unseen.
-/

namespace CardReboot

namespace TrapTable

open Text

/-! ## One line -/

def isRowLine (text : List Char) : Bool := !isHeader text && !isBlankText text

theorem exists_of_record_eq_ok
    {columns : Columns} {text : List Char} {r : TrapRecord}
    (hrecord : record columns text = .ok r) :
    number .device Numeral.word32 columns.device text = .ok r.device ∧
      number .trapCode Numeral.word32 columns.trapCode text = .ok r.trapCode ∧
        r.name = String.ofList (trim columns.name) ∧
          number .count Numeral.word64 columns.count text = .ok r.count ∧
            number .rate Numeral.word64 columns.rate text = .ok r.rate := by
  unfold record at hrecord
  obtain ⟨device, hdevice, hrecord⟩ := exists_of_bind_eq_ok hrecord
  obtain ⟨trapCode, htrapCode, hrecord⟩ := exists_of_bind_eq_ok hrecord
  obtain ⟨count, hcount, hrecord⟩ := exists_of_bind_eq_ok hrecord
  obtain ⟨rate, hrate, hrecord⟩ := exists_of_bind_eq_ok hrecord
  cases hrecord
  exact ⟨hdevice, htrapCode, rfl, hcount, hrate⟩

theorem exists_of_number_eq_error
    {column : TrapColumn} {limit : Nat} {text line : List Char} {failure : Failure}
    (hnumber : number column limit text line = .error failure) :
    ∃ cause, failure = .invalidNumber column (String.ofList line) cause := by
  unfold number at hnumber
  cases hread : Numeral.read limit (trim text) with
  | ok n => simp [hread] at hnumber
  | error cause =>
      simp only [hread, Except.error.injEq] at hnumber
      exact ⟨cause, hnumber.symm⟩

/-- A record fails for one of its numbers, and tells the whole line. -/
theorem exists_of_record_eq_error
    {columns : Columns} {text : List Char} {failure : Failure}
    (hrecord : record columns text = .error failure) :
    ∃ column cause, failure = .invalidNumber column (String.ofList text) cause := by
  unfold record at hrecord
  rcases bind_eq_error_iff.mp hrecord with hdevice | ⟨_, -, hrecord⟩
  · exact ⟨_, exists_of_number_eq_error hdevice⟩
  rcases bind_eq_error_iff.mp hrecord with htrapCode | ⟨_, -, hrecord⟩
  · exact ⟨_, exists_of_number_eq_error htrapCode⟩
  rcases bind_eq_error_iff.mp hrecord with hcount | ⟨_, -, hrecord⟩
  · exact ⟨_, exists_of_number_eq_error hcount⟩
  rcases bind_eq_error_iff.mp hrecord with hrate | ⟨_, -, hrecord⟩
  · exact ⟨_, exists_of_number_eq_error hrate⟩
  · cases hrecord

theorem record_ne_malformedLine (columns : Columns) (text : List Char) (malformed : String) :
    record columns text ≠ .error (.malformedLine malformed) := by
  intro hrecord
  obtain ⟨_, _, hfailure⟩ := exists_of_record_eq_error hrecord
  cases hfailure

theorem columns?_eq_none_of_blank {text : List Char} (hblank : isBlankText text = true) :
    columns? text = none := by
  rw [columns?_eq_none_iff]
  rintro ⟨l, rest, rfl, hrow⟩
  obtain ⟨c, hc⟩ := List.exists_mem_of_ne_nil l.device hrow.device.1
  have hmem : c ∈ l.text ++ rest := by simp [RowLayout.text, RowLayout.columnsText, hc]
  have hcblank : isBlank c = true := List.all_eq_true.mp hblank c hmem
  rw [isBlank_eq_false_of_isDigit (hrow.device.2 c hc)] at hcblank
  cases hcblank

/-- A line that is no row has no record, and its columns are not looked at. -/
theorem line_of_not_isRowLine {text : List Char} (htext : isRowLine text = false) :
    line text = .ok none := by
  rw [line]
  by_cases hheader : isHeader text = true
  · rw [if_pos hheader]
  · have hblank : isBlankText text = true := by simpa [isRowLine, hheader] using htext
    rw [if_neg hheader, columns?_eq_none_of_blank hblank]
    simp [hblank]

theorem head?_of_isHeader {text : List Char} (hheader : isHeader text = true) :
    text.head? = some 'D' := by
  obtain ⟨rest, rfl⟩ := List.isPrefixOf_iff_prefix.mp hheader
  rfl

/-- A header begins with no blank and no digit, so what is read as a row is none. -/
theorem isRowLine_of_columns {text : List Char} {columns : Columns}
    (hcolumns : columns? text = some columns) : isRowLine text = true := by
  have hheader : isHeader text = false := by
    cases hheader : isHeader text with
    | false => rfl
    | true =>
        obtain ⟨l, rest, rfl, hrow, -⟩ := exists_layout_of_columns? hcolumns
        have hhead := head?_of_isHeader hheader
        rw [l.text_append] at hhead
        cases hmargin : l.margin with
        | nil =>
            have hdigit : isDigit 'D' = true := by
              refine hrow.device.2 'D' (List.mem_of_head? ?_)
              rwa [hmargin, List.nil_append, List.head?_append_of_ne_nil _ hrow.device.1] at hhead
            cases hdigit
        | cons c margin =>
            have hblank : isBlank 'D' = true := by
              refine hrow.margin 'D' (List.mem_of_head? ?_)
              rwa [hmargin] at hhead ⊢
            cases hblank
  have hblank : isBlankText text = false := by
    cases hblank : isBlankText text with
    | false => rfl
    | true =>
        rw [columns?_eq_none_of_blank hblank] at hcolumns
        cases hcolumns
  simp [isRowLine, hheader, hblank]

theorem line_of_columns
    {text : List Char} {columns : Columns} (hcolumns : columns? text = some columns) :
    line text = record columns text >>= fun r => .ok (some r) := by
  have htext := isRowLine_of_columns hcolumns
  simp only [isRowLine, Bool.and_eq_true, Bool.not_eq_true'] at htext
  rw [line, if_neg (by simp [htext.1]), hcolumns]
  change some <$> record columns text = _
  cases record columns text <;> rfl

theorem line_of_no_columns
    {text : List Char} (htext : isRowLine text = true) (hcolumns : columns? text = none) :
    line text = .error (.malformedLine (String.ofList text)) := by
  simp only [isRowLine, Bool.and_eq_true, Bool.not_eq_true'] at htext
  rw [line, if_neg (by simp [htext.1]), hcolumns]
  simp [htext.2]

theorem exists_of_line_eq_ok
    {text : List Char} {found : Option TrapRecord} (htext : isRowLine text = true)
    (hline : line text = .ok found) :
    ∃ columns r, columns? text = some columns ∧ record columns text = .ok r ∧
      found = some r := by
  cases hcolumns : columns? text with
  | none =>
      rw [line_of_no_columns htext hcolumns] at hline
      cases hline
  | some columns =>
      rw [line_of_columns hcolumns] at hline
      obtain ⟨r, hrecord, hfound⟩ := exists_of_bind_eq_ok hline
      cases hfound
      exact ⟨columns, r, rfl, hrecord, rfl⟩

theorem line_eq_malformed_iff {text : List Char} {malformed : String} :
    line text = .error (.malformedLine malformed) ↔
      malformed = String.ofList text ∧ isRowLine text = true ∧ columns? text = none := by
  cases htext : isRowLine text with
  | false => simp [line_of_not_isRowLine htext]
  | true =>
      cases hcolumns : columns? text with
      | none =>
          rw [line_of_no_columns htext hcolumns]
          simp [eq_comm]
      | some columns =>
          rw [line_of_columns hcolumns, bind_eq_error_iff]
          simp [record_ne_malformedLine columns text malformed]

/-! ## The rows of a table -/

/-- The line begins with a row that shows the record.  It is nothing but that row
exactly when only blanks follow. -/
def BeginsWithRow (text : List Char) (r : TrapRecord) : Prop :=
  ∃ (l : RowLayout) (rest : List Char), text = l.text ++ rest ∧ l.IsRow ∧ l.Shows r ∧
    StopsAt isDigit rest ∧ (trim text = l.columnsText ↔ ∀ c ∈ rest, isBlank c = true)

theorem beginsWithRow_of_record
    {text : List Char} {columns : Columns} {r : TrapRecord}
    (hcolumns : columns? text = some columns) (hrecord : record columns text = .ok r) :
    BeginsWithRow text r := by
  obtain ⟨l, rest, rfl, hrow, hrest, hdevice, htrapCode, hname, hcount, hrate⟩ :=
    exists_layout_of_columns? hcolumns
  obtain ⟨hdevice', htrapCode', hname', hcount', hrate'⟩ := exists_of_record_eq_ok hrecord
  have hword32 : 0 < Numeral.word32 := by decide
  have hword64 : 0 < Numeral.word64 := by decide
  rw [← hdevice] at hdevice'
  rw [← htrapCode] at htrapCode'
  rw [← hcount] at hcount'
  rw [← hrate] at hrate'
  refine ⟨l, rest, rfl, hrow, ⟨?_, ?_, ?_, ?_, ?_⟩, hrest, hrow.trim_eq_iff rest⟩
  · exact (denotes_of_number_eq_ok hword32 hrow.device hdevice').1
  · exact (denotes_of_number_eq_ok hword32 hrow.trapCode htrapCode').1
  · rw [hname', String.toList_ofList, hname]
  · exact (denotes_of_number_eq_ok hword64 hrow.count hcount').1
  · exact (denotes_of_number_eq_ok hword64 hrow.rate hrate').1

/-- What holds of every line with its record holds of a table line by line. -/
theorem forall₂_of_record
    {related : List Char → TrapRecord → Prop}
    (hrelated : ∀ text columns r, columns? text = some columns → record columns text = .ok r →
      related text r)
    {texts : List (List Char)} {found : List TrapRecord} (hrecords : records texts = .ok found) :
    List.Forall₂ related (texts.filter isRowLine) found := by
  induction texts generalizing found with
  | nil =>
      cases hrecords
      exact .nil
  | cons text texts ih =>
      unfold records at hrecords
      obtain ⟨here, hline, hrecords⟩ := exists_of_bind_eq_ok hrecords
      obtain ⟨more, hmore, hrecords⟩ := exists_of_bind_eq_ok hrecords
      cases hrecords
      cases htext : isRowLine text with
      | false =>
          rw [line_of_not_isRowLine htext] at hline
          cases hline
          rw [List.filter_cons_of_neg (by simp [htext])]
          exact ih hmore
      | true =>
          obtain ⟨columns, r, hcolumns, hrecord, rfl⟩ := exists_of_line_eq_ok htext hline
          rw [List.filter_cons_of_pos htext]
          exact .cons (hrelated text columns r hcolumns hrecord) (ih hmore)

theorem forall₂_of_records_eq_ok
    {texts : List (List Char)} {found : List TrapRecord}
    (hrecords : records texts = .ok found) :
    List.Forall₂ BeginsWithRow (texts.filter isRowLine) found :=
  forall₂_of_record (fun _ _ _ => beginsWithRow_of_record) hrecords

/-- Reading fails with the failure of the first line that cannot be read. -/
theorem records_eq_error_iff {texts : List (List Char)} {failure : Failure} :
    records texts = .error failure ↔
      ∃ before text after, texts = before ++ text :: after ∧
        (∀ earlier ∈ before, ∃ found, line earlier = .ok found) ∧
          line text = .error failure := by
  induction texts with
  | nil => simp [records]
  | cons text texts ih =>
      unfold records
      rw [bind_eq_error_iff]
      constructor
      · rintro (hline | ⟨found, hfound, hrest⟩)
        · exact ⟨[], text, texts, rfl, by simp, hline⟩
        · rcases bind_eq_error_iff.mp hrest with hrest | ⟨more, -, hnothing⟩
          · obtain ⟨before, bad, after, rfl, hbefore, hbad⟩ := ih.mp hrest
            refine ⟨text :: before, bad, after, rfl, ?_, hbad⟩
            exact List.forall_mem_cons.mpr ⟨⟨found, hfound⟩, hbefore⟩
          · cases hnothing
      · rintro ⟨before, bad, after, htexts, hbefore, hbad⟩
        cases before with
        | nil =>
            cases htexts
            exact .inl hbad
        | cons first before =>
            cases htexts
            obtain ⟨⟨found, hfound⟩, hbefore⟩ := List.forall_mem_cons.mp hbefore
            have hrest := ih.mpr ⟨before, bad, after, rfl, hbefore, hbad⟩
            exact .inr ⟨found, hfound, bind_eq_error_iff.mpr (.inl hrest)⟩

/-- The lines of an output from its first header on. -/
def tableLines (output : String) : List (List Char) :=
  (lines output.toList).dropWhile fun text => !isHeader text

theorem parse_eq (output : String) : parse output = records (tableLines output) := rfl

/-- Every row of a table that is read is five whole columns and a rest that no digit
starts, and a line is malformed exactly when it does not begin with a row. -/
theorem parse_rows (output : String) :
    (∀ found, parse output = .ok found →
      List.Forall₂ BeginsWithRow ((tableLines output).filter isRowLine) found) ∧
    (∀ malformed, parse output = .error (.malformedLine malformed) ↔
      ∃ before text after, tableLines output = before ++ text :: after ∧
        (∀ earlier ∈ before, ∃ found, line earlier = .ok found) ∧
          malformed = String.ofList text ∧ isRowLine text = true ∧
            ¬ ∃ (l : RowLayout) (rest : List Char), text = l.text ++ rest ∧ l.IsRow) := by
  constructor
  · intro found hparse
    exact forall₂_of_records_eq_ok hparse
  · intro malformed
    rw [parse_eq, records_eq_error_iff]
    simp only [line_eq_malformed_iff, columns?_eq_none_iff]

/-! ## What follows the rate -/

/-- A rate of seven tenths is read as a rate of zero, so a table that is read need not
consist of rows. -/
theorem fraction_of_rate_unread :
    parse "DEV\n0 12 arp 100 0.7" = .ok [⟨0, 12, "arp", 100, 0⟩] ∧
      ¬ ∀ output found, parse output = .ok found →
        List.Forall₂
          (fun text r => ∃ l : RowLayout, l.IsRow ∧ l.Shows r ∧ trim text = l.columnsText)
          ((tableLines output).filter isRowLine) found := by
  have hparse : parse "DEV\n0 12 arp 100 0.7" = .ok [⟨0, 12, "arp", 100, 0⟩] := rfl
  refine ⟨hparse, ?_⟩
  intro hall
  have hrows := hall _ _ hparse
  have hlines : (tableLines "DEV\n0 12 arp 100 0.7").filter isRowLine =
      ["0 12 arp 100 0.7".toList] := by rfl
  have htrim : trim "0 12 arp 100 0.7".toList = "0 12 arp 100 0.".toList ++ ['7'] := by rfl
  rw [hlines] at hrows
  cases hrows with
  | cons hrow _ =>
      obtain ⟨l, hrow, hshows, htext⟩ := hrow
      have hlast : l.columnsText.getLast? = some '7' := by
        rw [← htext, htrim]
        exact List.getLast?_concat
      have hrate : l.rate.getLast? = some '7' := by
        obtain ⟨front, last, hrate⟩ := List.eq_nil_or_concat l.rate |>.resolve_left hrow.rate.1
        rw [RowLayout.columnsText, hrate] at hlast
        rw [hrate]
        simpa using hlast
      obtain ⟨front, hfront⟩ := List.getLast?_eq_some_iff.mp hrate
      have hzero : numeral 10 (front ++ ['7']) = 0 := by
        rw [← hfront]
        exact hshows.rate.2
      rw [numeral_append, numeralFrom_cons (by decide)] at hzero
      have hpositive : digitValue '7' = 7 := by decide
      have hle := le_numeralFrom (numeral 10 front * 10 + digitValue '7') []
      omega

end TrapTable

end CardReboot
