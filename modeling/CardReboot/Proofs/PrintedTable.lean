import CardReboot.Proofs.LineReading
import CardReboot.Proofs.TableReading

/-!
# Reading back a printed table

A printed table has a preamble, a header, and then rows among blank lines and further
headers.  A row sets its columns apart by spaces and tabs, and its name may hold words
that are numbers.  Of the numbers behind a name the last two are the count and the
rate, because the name takes all that leaves two numbers, so the columns that are read
are the ones that were printed.  The rows come back in order unless a number is too
large for its column.
-/

namespace CardReboot

namespace Text

/-- A space or a tab. -/
def isPadding (c : Char) : Bool := c == ' ' || c == '\t'

/-- Spaces and tabs, and at least one. -/
def IsPadding (text : List Char) : Prop :=
  text ≠ [] ∧ ∀ c ∈ text, isPadding c = true

/-- What the name of a printed row is made of. -/
def isLabelCharacter (c : Char) : Bool :=
  isWordCharacter c || c == '.' || c == '-' || isPadding c

theorem isBlank_of_isPadding {c : Char} (hc : isPadding c = true) : isBlank c = true := by
  simp only [isPadding, Bool.or_eq_true, beq_iff_eq] at hc
  rcases hc with rfl | rfl <;> decide

theorem IsPadding.isGap {text : List Char} (htext : IsPadding text) : IsGap text :=
  ⟨htext.1, fun c hc => isBlank_of_isPadding (htext.2 c hc)⟩

/-- A character outside the class of a text does not occur in it. -/
theorem not_mem_of_class {p : Char → Bool} {text : List Char} {c : Char}
    (htext : ∀ d ∈ text, p d = true) (hc : p c = false) : c ∉ text := by
  intro hmem
  rw [htext c hmem] at hc
  cases hc

end Text

/-- What the number in the column has to stay below. -/
def TrapColumn.limit : TrapColumn → Nat
  | .device | .trapCode => Numeral.word32
  | .count | .rate => Numeral.word64

theorem TrapColumn.limit_pos (column : TrapColumn) : 0 < column.limit := by
  cases column <;> decide

namespace TrapTable

open Text

theorem isNameCharacter_of_isLabelCharacter {c : Char} (hc : isLabelCharacter c = true) :
    isNameCharacter c = true := by
  simp only [isLabelCharacter, isNameCharacter, Bool.or_eq_true] at hc ⊢
  exact hc.imp_right isBlank_of_isPadding

/-! ## Printed rows -/

/-- The columns of numbers, in the order in which they are read. -/
def numberColumns : List TrapColumn := [.device, .trapCode, .count, .rate]

/-- A row as a console prints it. -/
structure PrintedRow extends RowLayout where
  trail : List Char
  margin_padding : ∀ c ∈ margin, isPadding c = true
  device_numeral : IsNumeral device
  afterDevice_padding : IsPadding afterDevice
  trapCode_numeral : IsNumeral trapCode
  afterTrapCode_padding : IsPadding afterTrapCode
  name_ne_nil : name ≠ []
  name_label : ∀ c ∈ name, isLabelCharacter c = true
  name_start : StopsAt isBlank name
  name_end : StopsAt isBlank name.reverse
  afterName_padding : IsPadding afterName
  count_numeral : IsNumeral count
  afterCount_padding : IsPadding afterCount
  rate_numeral : IsNumeral rate
  trail_padding : ∀ c ∈ trail, isPadding c = true

namespace PrintedRow

def line (r : PrintedRow) : List Char := r.text ++ r.trail

/-- The record that the row shows. -/
def record (r : PrintedRow) : TrapRecord where
  device := numeral 10 r.device
  trapCode := numeral 10 r.trapCode
  name := String.ofList r.name
  count := numeral 10 r.count
  rate := numeral 10 r.rate

/-- The digits in a column of numbers. -/
def digits (r : PrintedRow) : TrapColumn → List Char
  | .device => r.device
  | .trapCode => r.trapCode
  | .count => r.count
  | .rate => r.rate

def fits (r : PrintedRow) (column : TrapColumn) : Bool :=
  numeral 10 (r.digits column) < column.limit

/-- The failure that names the first column whose number does not fit. -/
def failure? (r : PrintedRow) : Option Failure :=
  (numberColumns.find? fun column => !r.fits column).map fun column =>
    .invalidNumber column (String.ofList r.line) .tooLarge

/-- The columns that are read: the name keeps the gap behind it but for one blank. -/
def columns (r : PrintedRow) : Columns where
  device := r.device
  trapCode := r.trapCode
  name := r.name ++ r.afterName.dropLast
  count := r.count
  rate := r.rate

variable (r : PrintedRow)

theorem trail_blank : ∀ c ∈ r.trail, isBlank c = true :=
  fun c hc => isBlank_of_isPadding (r.trail_padding c hc)

theorem trim_columns_name : trim r.columns.name = r.name := by
  have hgap : ∀ c ∈ r.afterName.dropLast, isBlank c = true := fun c hc =>
    r.afterName_padding.isGap.2 c (List.dropLast_subset _ hc)
  have htrim := @trim_append [] r.name r.afterName.dropLast r.name_ne_nil (by simp) hgap
    r.name_start r.name_end
  exact htrim

theorem countAndRate?_eq {last : Char} (hlast : isBlank last = true) :
    countAndRate? (last :: (r.count ++ (r.afterCount ++ (r.rate ++ r.trail)))) =
      some (r.count, r.rate) := by
  have hgap : IsGap [last] := ⟨List.cons_ne_nil _ _, by simpa using hlast⟩
  have hstop : StopsAt isDigit r.trail := by
    intro c hc
    exact isDigit_eq_false_of_isBlank (r.trail_blank c (List.mem_of_head? hc))
  exact countAndRate?_eq_some_iff.mpr ⟨[last], r.afterCount, r.trail, rfl, hgap,
    r.count_numeral.isDigits, r.afterCount_padding.isGap, r.rate_numeral.isDigits, hstop⟩

/-- Behind the first digit of the count only one number can follow a gap. -/
theorem numberFree_count : NumberFree (r.count ++ (r.afterCount ++ (r.rate ++ r.trail))) :=
  (numberFree_of_one_number r.afterCount_padding.isGap.2 r.rate_numeral.isDigits
    r.trail_blank).digits_append r.count_numeral.isDigits.2

theorem nameThenNumbers?_eq :
    nameThenNumbers?
        (r.name ++ (r.afterName ++ (r.count ++ (r.afterCount ++ (r.rate ++ r.trail))))) =
      some (r.columns.name, r.count, r.rate) := by
  have hgap := r.afterName_padding.isGap
  have hlast : isBlank (r.afterName.getLast hgap.1) = true :=
    hgap.2 _ (List.getLast_mem hgap.1)
  have hne : r.name ++ r.afterName.dropLast ≠ [] := by simp [r.name_ne_nil]
  have hcharacters : ∀ c ∈ r.name ++ r.afterName.dropLast, isNameCharacter c = true := by
    intro c hc
    rcases List.mem_append.mp hc with hc | hc
    · exact isNameCharacter_of_isLabelCharacter (r.name_label c hc)
    · have hblank : isBlank c = true := hgap.2 c (List.dropLast_subset _ hc)
      simp [isNameCharacter, hblank]
  have hread := nameThenNumbers?_append hne hcharacters (r.countAndRate?_eq hlast)
    r.numberFree_count
  have hsplit : r.name ++ (r.afterName ++ (r.count ++ (r.afterCount ++ (r.rate ++ r.trail)))) =
      (r.name ++ r.afterName.dropLast) ++ r.afterName.getLast hgap.1 ::
        (r.count ++ (r.afterCount ++ (r.rate ++ r.trail))) := by
    conv_lhs => rw [← List.dropLast_concat_getLast hgap.1]
    simp only [List.append_assoc, List.singleton_append]
  rw [hsplit]
  exact hread

theorem columns?_line : columns? r.line = some r.columns := by
  have hstart : StopsAt isBlank
      (r.name ++ (r.afterName ++ (r.count ++ (r.afterCount ++ (r.rate ++ r.trail))))) :=
    (stopsAt_append_iff r.name_ne_nil).mpr r.name_start
  have hname := gapThenName?_append r.afterTrapCode_padding.isGap hstart r.nameThenNumbers?_eq
  rw [line, r.text_append, columns?_append
    (fun c hc => isBlank_of_isPadding (r.margin_padding c hc)) r.device_numeral.isDigits
    r.afterDevice_padding.isGap r.trapCode_numeral.isDigits
    (r.afterTrapCode_padding.isGap.stopsAt_isDigit _), hname]
  rfl

theorem digits_numeral (column : TrapColumn) : IsNumeral (r.digits column) := by
  cases column with
  | device => exact r.device_numeral
  | trapCode => exact r.trapCode_numeral
  | count => exact r.count_numeral
  | rate => exact r.rate_numeral

theorem number_eq (column : TrapColumn) :
    number column column.limit (r.digits column) r.line =
      if r.fits column then .ok (numeral 10 (r.digits column))
      else .error (.invalidNumber column (String.ofList r.line) .tooLarge) := by
  rw [number_of_isNumeral column column.limit_pos (r.digits_numeral column)]
  simp [fits]

/-- The columns of a printed row are its record, unless a number does not fit. -/
theorem record_columns :
    TrapTable.record r.columns r.line =
      match r.failure? with
      | none => .ok r.record
      | some failure => .error failure := by
  have hdevice := r.number_eq .device
  have htrapCode := r.number_eq .trapCode
  have hcount := r.number_eq .count
  have hrate := r.number_eq .rate
  simp only [TrapColumn.limit, digits] at hdevice htrapCode hcount hrate
  rw [TrapTable.record, r.trim_columns_name]
  simp only [columns, hdevice, htrapCode, hcount, hrate, failure?, numberColumns,
    List.find?_cons]
  cases r.fits .device with
  | false => rfl
  | true =>
      cases r.fits .trapCode with
      | false => rfl
      | true =>
          cases r.fits .count with
          | false => rfl
          | true => cases r.fits .rate <;> rfl

/-- A printed row is read as its record, or refused for a number that does not fit. -/
theorem line_eq :
    TrapTable.line r.line =
      match r.failure? with
      | none => .ok (some r.record)
      | some failure => .error failure := by
  rw [line_of_columns r.columns?_line, r.record_columns]
  cases r.failure? <;> rfl

/-! ## No line feeds within a row -/

theorem not_mem_line {c : Char} (hpadding : isPadding c = false) (hdigit : isAsciiDigit c = false)
    (hlabel : isLabelCharacter c = false) : c ∉ r.line := by
  rw [line, r.text_append]
  simp only [List.mem_append, not_or]
  exact ⟨not_mem_of_class r.margin_padding hpadding,
    not_mem_of_class r.device_numeral.2 hdigit,
    not_mem_of_class r.afterDevice_padding.2 hpadding,
    not_mem_of_class r.trapCode_numeral.2 hdigit,
    not_mem_of_class r.afterTrapCode_padding.2 hpadding,
    not_mem_of_class r.name_label hlabel,
    not_mem_of_class r.afterName_padding.2 hpadding,
    not_mem_of_class r.count_numeral.2 hdigit,
    not_mem_of_class r.afterCount_padding.2 hpadding,
    not_mem_of_class r.rate_numeral.2 hdigit,
    not_mem_of_class r.trail_padding hpadding⟩

theorem feed_not_mem_line : '\n' ∉ r.line :=
  r.not_mem_line (by decide) (by decide) (by decide)

theorem return_not_mem_line : '\r' ∉ r.line :=
  r.not_mem_line (by decide) (by decide) (by decide)

end PrintedRow

/-! ## Printed tables -/

/-- A line from the header on. -/
inductive TableLine
  | blank (text : List Char) (hblank : isBlankText text = true) (hfeed : '\n' ∉ text)
  | header (text : List Char) (hheader : isHeader text = true) (hfeed : '\n' ∉ text)
  | row (r : PrintedRow)

namespace TableLine

def text : TableLine → List Char
  | blank text _ _ => text
  | header text _ _ => text
  | row r => r.line

def row? : TableLine → Option PrintedRow
  | blank _ _ _ => none
  | header _ _ _ => none
  | row r => some r

theorem feed_not_mem_text (l : TableLine) : '\n' ∉ l.text := by
  cases l with
  | blank _ _ hfeed => exact hfeed
  | header _ _ hfeed => exact hfeed
  | row r => exact r.feed_not_mem_line

end TableLine

/-- A preamble without a header, a header, and the lines after it. -/
structure PrintedTable where
  preamble : List (List Char)
  header : List Char
  body : List TableLine
  preamble_line : ∀ text ∈ preamble, isHeader text = false ∧ '\n' ∉ text
  header_line : isHeader header = true ∧ '\n' ∉ header

namespace PrintedTable

def lines (t : PrintedTable) : List (List Char) :=
  t.preamble ++ t.header :: t.body.map TableLine.text

def rows (t : PrintedTable) : List PrintedRow := t.body.filterMap TableLine.row?

end PrintedTable

/-! ## The ends of lines -/

theorem isHeader_withoutReturn (text : List Char) :
    isHeader (withoutReturn text) = isHeader text := by
  rcases eq_withoutReturn_or text with hsame | hreturn
  · rw [hsame]
  · have hmark : headerMark.toList ≠ withoutReturn text ++ ['\r'] := by
      intro heq
      have hlast := congrArg List.getLast? heq
      rw [List.getLast?_concat] at hlast
      exact absurd hlast (by decide)
    rw [Bool.eq_iff_iff, isHeader, isHeader, List.isPrefixOf_iff_prefix,
      List.isPrefixOf_iff_prefix]
    conv_rhs => rw [hreturn, List.prefix_concat_iff]
    simp [hmark]

theorem isBlankText_withoutReturn {text : List Char} (hblank : isBlankText text = true) :
    isBlankText (withoutReturn text) = true := by
  rcases eq_withoutReturn_or text with hsame | hreturn
  · rw [hsame]
    exact hblank
  · rw [hreturn, isBlankText, List.all_append, Bool.and_eq_true] at hblank
    exact hblank.1

theorem isRowLine_eq_false_of_blank {text : List Char} (hblank : isBlankText text = true) :
    isRowLine text = false := by
  simp [isRowLine, hblank]

theorem isRowLine_eq_false_of_header {text : List Char} (hheader : isHeader text = true) :
    isRowLine text = false := by
  simp [isRowLine, hheader]

/-- Whether the splitting keeps a return at the end of a line makes no difference. -/
theorem TableLine.line_withoutReturn (l : TableLine) :
    TrapTable.line (withoutReturn l.text) = TrapTable.line l.text := by
  cases l with
  | blank text hblank _ =>
      have hwithout := isRowLine_eq_false_of_blank (isBlankText_withoutReturn hblank)
      rw [TableLine.text, line_of_not_isRowLine hwithout,
        line_of_not_isRowLine (isRowLine_eq_false_of_blank hblank)]
  | header text hheader _ =>
      have hwithout : isHeader (withoutReturn text) = true := by
        rw [isHeader_withoutReturn]
        exact hheader
      rw [TableLine.text, line_of_not_isRowLine (isRowLine_eq_false_of_header hwithout),
        line_of_not_isRowLine (isRowLine_eq_false_of_header hheader)]
  | row r => rw [TableLine.text, withoutReturn_eq_self r.return_not_mem_line]

/-- No line feed is inside the line, and a return at its end makes no difference to what
it is read as. -/
structure EndsFreely (text : List Char) : Prop where
  feed : '\n' ∉ text
  line : line (withoutReturn text) = line text

theorem EndsFreely.line_eq {text found : List Char} (htext : EndsFreely text)
    (hfound : found = text ∨ found = withoutReturn text) :
    TrapTable.line found = TrapTable.line text := by
  rcases hfound with rfl | rfl
  · rfl
  · exact htext.line

theorem isHeader_eq {text found : List Char} (hfound : found = text ∨ found = withoutReturn text) :
    isHeader found = isHeader text := by
  rcases hfound with rfl | rfl
  · rfl
  · exact isHeader_withoutReturn text

theorem records_lines
    {texts : List (List Char)} {output : List Char} (hprinted : Printed texts output)
    (htexts : ∀ text ∈ texts, EndsFreely text) :
    records (lines output) = records texts := by
  induction texts generalizing output with
  | nil =>
      cases hprinted
      rfl
  | cons text texts ih =>
      obtain ⟨htext, htexts⟩ := List.forall_mem_cons.mp htexts
      by_cases hsome : text ≠ [] ∨ texts ≠ []
      · obtain ⟨found, more, hlines, hfound, hmore⟩ :=
          hprinted.exists_lines_eq htext.feed hsome
        rw [hlines, records, records, htext.line_eq hfound, ih hmore htexts]
      · -- An empty last line without an ending is not seen, and would be blank.
        simp only [not_or, ne_eq, not_not] at hsome
        obtain ⟨rfl, rfl⟩ := hsome
        cases hprinted with
        | unended => rfl
        | feed _ hrest =>
            cases hrest
            rfl
        | returnFeed _ hrest =>
            cases hrest
            rfl

/-- A printed text is read from its first header on, line by line as it was printed. -/
theorem records_dropWhile_lines
    {preamble body : List (List Char)} {header output : List Char}
    (hprinted : Printed (preamble ++ header :: body) output)
    (hpreamble : ∀ text ∈ preamble, isHeader text = false ∧ '\n' ∉ text)
    (hheader : isHeader header = true)
    (htexts : ∀ text ∈ header :: body, EndsFreely text) :
    records ((lines output).dropWhile fun text => !isHeader text) =
      records (header :: body) := by
  induction preamble generalizing output with
  | nil =>
      have hne : header ≠ [] := by
        intro hempty
        rw [hempty] at hheader
        cases hheader
      obtain ⟨found, more, hlines, hfound, -⟩ :=
        hprinted.exists_lines_eq (htexts header List.mem_cons_self).feed (.inl hne)
      have hfirst : isHeader found = true := by rw [isHeader_eq hfound, hheader]
      have hread := records_lines hprinted htexts
      rw [hlines] at hread ⊢
      rw [List.dropWhile_cons_of_neg (by simp [hfirst])]
      exact hread
  | cons text preamble ih =>
      obtain ⟨⟨hno, hfeed⟩, hpreamble⟩ := List.forall_mem_cons.mp hpreamble
      have hrest : preamble ++ header :: body ≠ [] := by simp
      obtain ⟨found, more, hlines, hfound, hmore⟩ :=
        Printed.exists_lines_eq hprinted hfeed (.inr hrest)
      have hfirst : isHeader found = false := by rw [isHeader_eq hfound, hno]
      rw [hlines, List.dropWhile_cons_of_pos (by simp [hfirst])]
      exact ih hmore hpreamble

/-! ## The rows of a printed table -/

theorem records_cons_of_none {text : List Char} (texts : List (List Char))
    (htext : line text = .ok none) : records (text :: texts) = records texts := by
  rw [records, htext]
  cases records texts <;> rfl

theorem TableLine.line_text (l : TableLine) :
    TrapTable.line l.text =
      match l.row?.bind PrintedRow.failure? with
      | none => .ok (l.row?.map PrintedRow.record)
      | some failure => .error failure := by
  cases l with
  | blank text hblank _ => exact line_of_not_isRowLine (isRowLine_eq_false_of_blank hblank)
  | header text hheader _ => exact line_of_not_isRowLine (isRowLine_eq_false_of_header hheader)
  | row r => exact r.line_eq

theorem records_map_text (body : List TableLine) :
    records (body.map TableLine.text) =
      match (body.filterMap TableLine.row?).findSome? PrintedRow.failure? with
      | none => .ok ((body.filterMap TableLine.row?).map PrintedRow.record)
      | some failure => .error failure := by
  induction body with
  | nil => rfl
  | cons l body ih =>
      rw [List.map_cons, records, l.line_text, ih]
      cases hrow : l.row? with
      | none =>
          rw [List.filterMap_cons_none hrow]
          cases (body.filterMap TableLine.row?).findSome? PrintedRow.failure? <;> rfl
      | some r =>
          rw [List.filterMap_cons_some hrow, List.findSome?_cons]
          cases hfailure : r.failure? with
          | some failure =>
              simp only [Option.bind_some, hfailure]
              rfl
          | none =>
              simp only [Option.bind_some, hfailure]
              cases (body.filterMap TableLine.row?).findSome? PrintedRow.failure? <;> rfl

theorem endsFreely_text (l : TableLine) : EndsFreely l.text :=
  ⟨l.feed_not_mem_text, l.line_withoutReturn⟩

/-- The rows come back in the order in which they were printed, unless some number does not
fit its column; then the first row with such a number is refused for the first one. -/
theorem parse_printed (t : PrintedTable) {output : String}
    (hprinted : Printed t.lines output.toList) :
    parse output =
      match t.rows.findSome? PrintedRow.failure? with
      | none => .ok (t.rows.map PrintedRow.record)
      | some failure => .error failure := by
  let header : TableLine := .header t.header t.header_line.1 t.header_line.2
  have htexts : ∀ text ∈ t.header :: t.body.map TableLine.text, EndsFreely text := by
    intro text htext
    obtain ⟨l, -, rfl⟩ : ∃ l ∈ header :: t.body, l.text = text := List.mem_map.mp htext
    exact endsFreely_text l
  have hheader : line t.header = .ok none := header.line_text
  calc parse output
      = records (t.header :: t.body.map TableLine.text) :=
        records_dropWhile_lines hprinted t.preamble_line t.header_line.1 htexts
    _ = records (t.body.map TableLine.text) := records_cons_of_none _ hheader
    _ = _ := records_map_text t.body

/-- A row named by a word and two numbers, between which two blanks stand. -/
def loopRow : PrintedRow where
  margin := [' ', ' ']
  device := ['0']
  afterDevice := ['\t']
  trapCode := ['0', '1', '2']
  afterTrapCode := [' ', ' ']
  name := ['l', 'o', 'o', 'p', ' ', '2', '4', ' ', ' ', '9']
  afterName := [' ', '\t', ' ']
  count := ['3']
  afterCount := [' ']
  rate := ['7']
  trail := [' ']
  margin_padding := List.all_eq_true.mp rfl
  device_numeral := ⟨by decide, List.all_eq_true.mp rfl⟩
  afterDevice_padding := ⟨by decide, List.all_eq_true.mp rfl⟩
  trapCode_numeral := ⟨by decide, List.all_eq_true.mp rfl⟩
  afterTrapCode_padding := ⟨by decide, List.all_eq_true.mp rfl⟩
  name_ne_nil := by decide
  name_label := List.all_eq_true.mp (by decide +kernel)
  name_start := by
    intro c hc
    cases hc
    decide
  name_end := by
    intro c hc
    cases hc
    decide
  afterName_padding := ⟨by decide, List.all_eq_true.mp rfl⟩
  count_numeral := ⟨by decide, List.all_eq_true.mp rfl⟩
  afterCount_padding := ⟨by decide, List.all_eq_true.mp rfl⟩
  rate_numeral := ⟨by decide, List.all_eq_true.mp rfl⟩
  trail_padding := List.all_eq_true.mp rfl

/-- The row twice, with a second header between the two. -/
def loopTable : PrintedTable where
  preamble := ["show cda trapstats".toList]
  header := "DEV TRAPCODE".toList
  body := [.row loopRow, .blank [] (by decide) (by decide),
    .header "DEV".toList (by decide) (by decide), .row loopRow]
  preamble_line := by decide
  header_line := by decide

def loopOutput : String :=
  "show cda trapstats\r\nDEV TRAPCODE\n  0\t012  loop 24  9 \t 3 7 \n" ++
    "\r\nDEV\n  0\t012  loop 24  9 \t 3 7 "

theorem parse_loopOutput :
    Printed loopTable.lines loopOutput.toList ∧
      parse loopOutput = .ok [⟨0, 12, "loop 24  9", 3, 7⟩, ⟨0, 12, "loop 24  9", 3, 7⟩] := by
  have hprinted : Printed loopTable.lines loopOutput.toList :=
    .returnFeed _ (.feed _ (.feed _ (.returnFeed _ (.feed _ (.unended _)))))
  exact ⟨hprinted, parse_printed loopTable hprinted⟩

end TrapTable

end CardReboot
