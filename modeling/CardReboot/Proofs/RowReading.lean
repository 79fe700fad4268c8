import CardReboot.Proofs.RowShape
import CardReboot.Text.Positional
import CardReboot.TrapTable.Table

/-!
# Reading a table row

A layout says where the columns and the gaps of a row stand.  A line is read exactly
when it begins with a row, whatever follows that row, and the columns that are read
are those of a layout of the line.  A column of digits is a number when all its
digits are ASCII ones and the number is below the limit of its field.
-/

namespace CardReboot

/-! ## Numbers -/

namespace Text

/-- ASCII digits, and at least one. -/
def IsNumeral (text : List Char) : Prop :=
  text ≠ [] ∧ ∀ c ∈ text, isAsciiDigit c = true

theorem IsNumeral.isDigits {text : List Char} (htext : IsNumeral text) : IsDigits text :=
  ⟨htext.1, fun c hc => isDigit_of_isAsciiDigit (htext.2 c hc)⟩

/-- ASCII digits that write the number. -/
def Denotes (text : List Char) (n : Nat) : Prop := IsNumeral text ∧ numeral 10 text = n

theorem numeralFrom_cons {c : Char} (hc : isAsciiDigit c = true) (n : Nat)
    (digits : List Char) :
    numeralFrom 10 n (c :: digits) = numeralFrom 10 (n * 10 + digitValue c) digits := by
  simp [numeralFrom, hexValue?, hc]

theorem le_numeralFrom (n : Nat) (digits : List Char) : n ≤ numeralFrom 10 n digits := by
  induction digits generalizing n with
  | nil => exact Nat.le_refl n
  | cons c digits ih =>
      have hrest := ih (n * 10 + (hexValue? c).getD 0)
      have hfirst : n ≤ n * 10 + (hexValue? c).getD 0 := by omega
      exact Nat.le_trans hfirst hrest

theorem IsDigits.trim_eq {text : List Char} (hdigits : IsDigits text) : trim text = text := by
  have hstart : StopsAt isBlank text := by
    have happend := hdigits.stopsAt_isBlank []
    rwa [List.append_nil] at happend
  have hend : StopsAt isBlank text.reverse := by
    intro c hc
    have hmem : c ∈ text := List.mem_reverse.mp (List.mem_of_head? hc)
    exact isBlank_eq_false_of_isDigit (hdigits.2 c hmem)
  have htrim := @trim_append [] text [] hdigits.1 (by simp) (by simp) hstart hend
  simpa using htrim

end Text

namespace Numeral

open Text

theorem appendDigits_eq
    {limit value : Nat} {digits : List Char} (hvalue : value < limit)
    (hdigits : ∀ c ∈ digits, isAsciiDigit c = true) :
    appendDigits limit value digits =
      if numeralFrom 10 value digits < limit then .ok (numeralFrom 10 value digits)
      else .error .tooLarge := by
  induction digits generalizing value with
  | nil =>
      have hnothing : numeralFrom 10 value [] = value := rfl
      rw [hnothing, if_pos hvalue, appendDigits]
  | cons c digits ih =>
      obtain ⟨hc, hdigits⟩ := List.forall_mem_cons.mp hdigits
      rw [appendDigits, if_pos hc, numeralFrom_cons hc]
      by_cases hnext : value * 10 + digitValue c < limit
      · rw [if_pos hnext]
        exact ih hnext hdigits
      · have hlarge := le_numeralFrom (value * 10 + digitValue c) digits
        rw [if_neg hnext, if_neg (by omega)]

theorem ascii_of_appendDigits_eq_ok
    {limit value n : Nat} {digits : List Char}
    (hread : appendDigits limit value digits = .ok n) :
    ∀ c ∈ digits, isAsciiDigit c = true := by
  induction digits generalizing value with
  | nil => simp
  | cons c digits ih =>
      rw [appendDigits] at hread
      by_cases hc : isAsciiDigit c = true
      · rw [if_pos hc] at hread
        by_cases hnext : value * 10 + digitValue c < limit
        · rw [if_pos hnext] at hread
          exact List.forall_mem_cons.mpr ⟨hc, ih hread⟩
        · rw [if_neg hnext] at hread
          cases hread
      · rw [if_neg hc] at hread
        cases hread

/-- A sign is no digit, so a column of digits is read from its first one on. -/
theorem read_of_isDigits {text : List Char} (hdigits : IsDigits text) (limit : Nat) :
    read limit text = appendDigits limit 0 text := by
  unfold read
  split
  · exact absurd rfl hdigits.1
  · exact absurd (hdigits.2 '+' List.mem_cons_self) (by decide)
  · exact absurd (hdigits.2 '+' List.mem_cons_self) (by decide)
  · rfl

end Numeral

namespace TrapTable

open Text

theorem number_of_isNumeral
    (column : TrapColumn) {limit : Nat} (hlimit : 0 < limit) {text : List Char}
    (htext : IsNumeral text) (line : List Char) :
    number column limit text line =
      if numeral 10 text < limit then .ok (numeral 10 text)
      else .error (.invalidNumber column (String.ofList line) .tooLarge) := by
  have hdigits : IsDigits text := htext.isDigits
  rw [number, hdigits.trim_eq, Numeral.read_of_isDigits hdigits,
    Numeral.appendDigits_eq hlimit htext.2]
  by_cases hsmall : numeral 10 text < limit
  · have hfits : numeralFrom 10 0 text < limit := hsmall
    rw [if_pos hsmall, if_pos hfits]
    rfl
  · have hlarge : ¬ numeralFrom 10 0 text < limit := hsmall
    rw [if_neg hsmall, if_neg hlarge]

theorem denotes_of_number_eq_ok
    {column : TrapColumn} {limit : Nat} (hlimit : 0 < limit) {text line : List Char} {n : Nat}
    (hdigits : IsDigits text) (hnumber : number column limit text line = .ok n) :
    Denotes text n ∧ n < limit := by
  have htext : IsNumeral text := by
    refine ⟨hdigits.1, ?_⟩
    rw [number, hdigits.trim_eq, Numeral.read_of_isDigits hdigits] at hnumber
    cases hread : Numeral.appendDigits limit 0 text with
    | ok value => exact Numeral.ascii_of_appendDigits_eq_ok hread
    | error cause =>
        rw [hread] at hnumber
        cases hnumber
  rw [number_of_isNumeral column hlimit htext] at hnumber
  by_cases hsmall : numeral 10 text < limit
  · rw [if_pos hsmall] at hnumber
    cases hnumber
    exact ⟨⟨htext, rfl⟩, hsmall⟩
  · rw [if_neg hsmall] at hnumber
    cases hnumber

/-! ## Layouts -/

/-- The pieces of a row in the order in which they stand. -/
structure RowLayout where
  margin : List Char
  device : List Char
  afterDevice : List Char
  trapCode : List Char
  afterTrapCode : List Char
  name : List Char
  afterName : List Char
  count : List Char
  afterCount : List Char
  rate : List Char

namespace RowLayout

/-- The five columns with the gaps between them. -/
def columnsText (l : RowLayout) : List Char :=
  l.device ++ (l.afterDevice ++ (l.trapCode ++ (l.afterTrapCode ++ (l.name ++
    (l.afterName ++ (l.count ++ (l.afterCount ++ l.rate)))))))

def text (l : RowLayout) : List Char := l.margin ++ l.columnsText

/-- The pieces are what they stand for.  A row can be without a name when the gap
before the count is wide enough to be taken for one. -/
structure IsRow (l : RowLayout) : Prop where
  margin : ∀ c ∈ l.margin, isBlank c = true
  device : IsDigits l.device
  afterDevice : IsGap l.afterDevice
  trapCode : IsDigits l.trapCode
  afterTrapCode : IsGap l.afterTrapCode
  name : ∀ c ∈ l.name, isNameCharacter c = true
  room : l.name = [] → 3 ≤ (l.afterTrapCode ++ l.afterName).length
  afterName : IsGap l.afterName
  count : IsDigits l.count
  afterCount : IsGap l.afterCount
  rate : IsDigits l.rate

/-- The columns write the fields of the record. -/
structure Shows (l : RowLayout) (r : TrapRecord) : Prop where
  device : Denotes l.device r.device
  trapCode : Denotes l.trapCode r.trapCode
  name : l.name = r.name.toList
  count : Denotes l.count r.count
  rate : Denotes l.rate r.rate

variable {l : RowLayout}

theorem text_append (l : RowLayout) (rest : List Char) :
    l.text ++ rest =
      l.margin ++ (l.device ++ (l.afterDevice ++ (l.trapCode ++ (l.afterTrapCode ++
        (l.name ++ (l.afterName ++ (l.count ++ (l.afterCount ++ (l.rate ++ rest))))))))) := by
  simp only [text, columnsText, List.append_assoc]

theorem IsRow.columnsText_ne_nil (hrow : l.IsRow) : l.columnsText ≠ [] := by
  rw [columnsText]
  exact fun hnil => hrow.device.1 (List.append_eq_nil_iff.mp hnil).1

theorem IsRow.stopsAt_columnsText (hrow : l.IsRow) : StopsAt isBlank l.columnsText :=
  hrow.device.stopsAt_isBlank _

theorem IsRow.stopsAt_reverse_columnsText (hrow : l.IsRow) :
    StopsAt isBlank l.columnsText.reverse := by
  have hlast : l.columnsText.reverse =
      l.rate.reverse ++ (l.device ++ (l.afterDevice ++ (l.trapCode ++ (l.afterTrapCode ++
        (l.name ++ (l.afterName ++ (l.count ++ l.afterCount))))))).reverse := by
    rw [← List.reverse_append]
    simp only [columnsText, List.append_assoc]
  have hne : l.rate.reverse ≠ [] := by simpa using hrow.rate.1
  have hdigits : ∀ c ∈ l.rate.reverse, isBlank c = false := fun c hc =>
    isBlank_eq_false_of_isDigit (hrow.rate.2 c (List.mem_reverse.mp hc))
  rw [hlast]
  exact stopsAt_append hne hdigits _

/-- A line is nothing but its five columns exactly when only blanks follow them. -/
theorem IsRow.trim_eq_iff (hrow : l.IsRow) (rest : List Char) :
    trim (l.text ++ rest) = l.columnsText ↔ ∀ c ∈ rest, isBlank c = true := by
  have hsplit : l.text ++ rest = l.margin ++ (l.columnsText ++ rest) := by
    rw [text, List.append_assoc]
  rw [hsplit]
  constructor
  · intro htrim
    obtain ⟨before, after, hline, hbefore, hafter⟩ :=
      exists_eq_append_trim (l.margin ++ (l.columnsText ++ rest))
    rw [htrim] at hline
    have hstart : ∀ more, StopsAt isBlank (l.columnsText ++ more) := by
      intro more
      rw [columnsText, List.append_assoc]
      exact hrow.device.stopsAt_isBlank _
    have hmargin : l.columnsText ++ rest = l.columnsText ++ after := by
      rw [← dropWhile_append_of_stopsAt hrow.margin (hstart rest), hline,
        dropWhile_append_of_stopsAt hbefore (hstart after)]
    rw [List.append_cancel_left hmargin]
    exact hafter
  · intro hrest
    exact trim_append hrow.columnsText_ne_nil hrow.margin hrest hrow.stopsAt_columnsText
      hrow.stopsAt_reverse_columnsText

end RowLayout

/-! ## Rows that are read -/

/-- Up to the trap code there is only one way to cut a row. -/
theorem columns?_append
    {margin device afterDevice trapCode rest : List Char}
    (hmargin : ∀ c ∈ margin, isBlank c = true) (hdevice : IsDigits device)
    (hafter : IsGap afterDevice) (htrapCode : IsDigits trapCode)
    (hrest : StopsAt isDigit rest) :
    columns? (margin ++ (device ++ (afterDevice ++ (trapCode ++ rest)))) =
      (gapThenName? rest).map fun found =>
        ⟨device, trapCode, found.1, found.2.1, found.2.2⟩ := by
  have hfirst := dropWhile_append_of_stopsAt hmargin
    (hdevice.stopsAt_isBlank (afterDevice ++ (trapCode ++ rest)))
  have hsecond := digits?_eq_some_iff.mpr
    ⟨rfl, hdevice, hafter.stopsAt_isDigit (trapCode ++ rest)⟩
  have hthird := gap?_eq_some_iff.mpr ⟨afterDevice, rfl, hafter, htrapCode.stopsAt_isBlank rest⟩
  have hfourth := digits?_eq_some_iff.mpr ⟨rfl, htrapCode, hrest⟩
  simp only [columns?, hfirst, hsecond, hthird, hfourth, Option.bind_eq_bind, Option.bind_some]
  cases gapThenName? rest <;> rfl

/-- A line is read when it can be cut behind the trap code and a name with two numbers
is read from there on. -/
theorem columns?_eq_some_iff {line : List Char} {columns : Columns} :
    columns? line = some columns ↔
      ∃ margin afterDevice rest,
        line = margin ++ (columns.device ++ (afterDevice ++ (columns.trapCode ++ rest))) ∧
          (∀ c ∈ margin, isBlank c = true) ∧ IsDigits columns.device ∧ IsGap afterDevice ∧
            IsDigits columns.trapCode ∧ StopsAt isDigit rest ∧
              gapThenName? rest = some (columns.name, columns.count, columns.rate) := by
  constructor
  · intro hread
    have hmargin : line = line.takeWhile isBlank ++ line.dropWhile isBlank :=
      List.takeWhile_append_dropWhile.symm
    simp only [columns?, Option.bind_eq_bind, Option.bind_eq_some_iff, Prod.exists,
      Option.some.injEq] at hread
    obtain ⟨device, _, hfirst, _, hsecond, trapCode, rest, hthird, name, count, rate, hfourth,
      rfl⟩ := hread
    obtain ⟨hafterMargin, hdevice, -⟩ := digits?_eq_some_iff.mp hfirst
    obtain ⟨afterDevice, rfl, hafterDevice, -⟩ := gap?_eq_some_iff.mp hsecond
    obtain ⟨rfl, htrapCode, hrest⟩ := digits?_eq_some_iff.mp hthird
    rw [hafterMargin] at hmargin
    exact ⟨_, afterDevice, rest, hmargin, List.all_eq_true.mp List.all_takeWhile, hdevice,
      hafterDevice, htrapCode, hrest, hfourth⟩
  · rintro ⟨margin, afterDevice, rest, rfl, hmargin, hdevice, hafterDevice, htrapCode, hrest,
      hname⟩
    rw [columns?_append hmargin hdevice hafterDevice htrapCode hrest, hname]
    rfl

theorem isSome_countAndRate?
    {before count between rate : List Char} (hbefore : IsGap before) (hcount : IsDigits count)
    (hbetween : IsGap between) (hrate : IsDigits rate) (rest : List Char) :
    (countAndRate? (before ++ (count ++ (between ++ (rate ++ rest))))).isSome = true := by
  have hwhole : rate ++ rest =
      (rate ++ rest.takeWhile isDigit) ++ rest.dropWhile isDigit := by
    rw [List.append_assoc, List.takeWhile_append_dropWhile]
  have hdigits : IsDigits (rate ++ rest.takeWhile isDigit) := by
    refine ⟨fun hnil => hrate.1 (List.append_eq_nil_iff.mp hnil).1, ?_⟩
    intro c hc
    rcases List.mem_append.mp hc with hc | hc
    · exact hrate.2 c hc
    · exact List.all_eq_true.mp List.all_takeWhile c hc
  have hread := countAndRate?_eq_some_iff.mpr
    ⟨before, between, _, rfl, hbefore, hcount, hbetween, hdigits,
      stopsAt_dropWhile isDigit rest⟩
  rw [hwhole, hread]
  rfl

theorem exists_ends_of_three_le {text : List Char} (hlong : 3 ≤ text.length) :
    ∃ first middle last, text = [first] ++ (middle ++ [last]) ∧ middle ≠ [] := by
  cases text with
  | nil => simp at hlong
  | cons first rest =>
      have hrest : 2 ≤ rest.length := Nat.le_of_succ_le_succ hlong
      have hne : rest ≠ [] := List.ne_nil_of_length_pos (by omega)
      refine ⟨first, rest.dropLast, rest.getLast hne, ?_, ?_⟩
      · rw [List.dropLast_concat_getLast]
        rfl
      · apply List.ne_nil_of_length_pos
        rw [List.length_dropLast]
        omega

/-- A line that begins with a row is read, whatever follows the row. -/
theorem RowLayout.IsRow.isSome_columns?
    {l : RowLayout} (hrow : l.IsRow) (rest : List Char) :
    (columns? (l.text ++ rest)).isSome = true := by
  have hstop := hrow.afterTrapCode.stopsAt_isDigit
    (l.name ++ (l.afterName ++ (l.count ++ (l.afterCount ++ (l.rate ++ rest)))))
  rw [l.text_append, columns?_append hrow.margin hrow.device hrow.afterDevice hrow.trapCode hstop,
    Option.isSome_map]
  by_cases hname : l.name = []
  · -- The middle of the gap takes the place of the name.
    have hroom := hrow.room hname
    have hblank : ∀ c ∈ l.afterTrapCode ++ l.afterName, isBlank c = true := by
      intro c hc
      rcases List.mem_append.mp hc with hc | hc
      · exact hrow.afterTrapCode.2 c hc
      · exact hrow.afterName.2 c hc
    rw [hname, List.nil_append, ← List.append_assoc]
    generalize l.afterTrapCode ++ l.afterName = gap at hroom hblank
    obtain ⟨first, middle, last, rfl, hmiddle⟩ := exists_ends_of_three_le hroom
    have hlast : IsGap [last] := ⟨by simp, fun c hc => hblank c (by simp_all)⟩
    have hfirst : IsGap [first] := ⟨by simp, fun c hc => hblank c (by simp_all)⟩
    have hcharacters : ∀ c ∈ middle, isNameCharacter c = true := by
      intro c hc
      have hc : isBlank c = true := hblank c (by simp [hc])
      simp [isNameCharacter, hc]
    rw [List.append_assoc, List.append_assoc]
    exact isSome_gapThenName? hfirst (isSome_nameThenNumbers? hmiddle hcharacters
      (isSome_countAndRate? hlast hrow.count hrow.afterCount hrow.rate rest))
  · exact isSome_gapThenName? hrow.afterTrapCode (isSome_nameThenNumbers? hname hrow.name
      (isSome_countAndRate? hrow.afterName hrow.count hrow.afterCount hrow.rate rest))

/-- The columns that are read are those of a row at the start of the line. -/
theorem exists_layout_of_columns?
    {line : List Char} {columns : Columns} (hread : columns? line = some columns) :
    ∃ (l : RowLayout) (rest : List Char), line = l.text ++ rest ∧ l.IsRow ∧
      StopsAt isDigit rest ∧ l.device = columns.device ∧ l.trapCode = columns.trapCode ∧
        l.name = trim columns.name ∧ l.count = columns.count ∧ l.rate = columns.rate := by
  obtain ⟨margin, afterDevice, text, hline, hmargin, hdevice, hafterDevice, htrapCode, -,
    hfourth⟩ := columns?_eq_some_iff.mp hread
  obtain ⟨gap, _, rfl, hgap, hfifth⟩ := exists_of_gapThenName? hfourth
  obtain ⟨_, rfl, hne, hname, hnumbers⟩ := exists_of_nameThenNumbers? hfifth
  obtain ⟨last, afterCount, rest, rfl, hlast, hcount, hafterCount, hrate, hrest⟩ :=
    countAndRate?_eq_some_iff.mp hnumbers
  -- The blanks at the ends of the name go to the gaps beside it.
  obtain ⟨before, after, hraw, hbefore, hafter⟩ := exists_eq_append_trim columns.name
  refine ⟨⟨margin, columns.device, afterDevice, columns.trapCode, gap ++ before,
    trim columns.name, after ++ last, columns.count, afterCount, columns.rate⟩, rest, ?_, ?_,
    hrest, rfl, rfl, rfl, rfl, rfl⟩
  · rw [RowLayout.text_append]
    simp only [List.append_assoc]
    rw [← List.append_assoc (trim columns.name), ← List.append_assoc before, ← hraw]
    exact hline
  · refine ⟨hmargin, hdevice, hafterDevice, htrapCode, ?_, ?_, ?_, ?_, hcount, hafterCount, hrate⟩
    · refine ⟨fun hnil => hgap.1 (List.append_eq_nil_iff.mp hnil).1, ?_⟩
      exact List.forall_mem_append.mpr ⟨hgap.2, hbefore⟩
    · intro c hc
      have hmem : c ∈ columns.name := by
        rw [hraw]
        exact List.mem_append_right _ (List.mem_append_left _ hc)
      exact hname c hmem
    · intro hnil
      have hlength : 0 < columns.name.length := List.length_pos_iff.mpr hne
      have hgapLength : 0 < gap.length := List.length_pos_iff.mpr hgap.1
      have hlastLength : 0 < last.length := List.length_pos_iff.mpr hlast.1
      have hpieces := congrArg List.length hraw
      simp only [show trim columns.name = [] from hnil, List.length_append,
        List.length_nil] at hpieces ⊢
      omega
    · refine ⟨fun hnil => hlast.1 (List.append_eq_nil_iff.mp hnil).2, ?_⟩
      exact List.forall_mem_append.mpr ⟨hafter, hlast.2⟩

theorem columns?_eq_none_iff {line : List Char} :
    columns? line = none ↔
      ¬ ∃ (l : RowLayout) (rest : List Char), line = l.text ++ rest ∧ l.IsRow := by
  constructor
  · rintro hnone ⟨l, rest, rfl, hrow⟩
    have hsome := hrow.isSome_columns? rest
    rw [hnone] at hsome
    cases hsome
  · intro hno
    cases hread : columns? line with
    | none => rfl
    | some columns =>
        obtain ⟨l, rest, hline, hrow, -⟩ := exists_layout_of_columns? hread
        exact absurd ⟨l, rest, hline, hrow⟩ hno

end TrapTable

end CardReboot
