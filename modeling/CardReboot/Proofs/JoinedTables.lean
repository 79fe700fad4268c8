import CardReboot.Proofs.PrintedTable
import Mathlib.Data.List.TakeWhile

/-!
# Tables in sequence

Two outputs with a line feed between them are read one after the other.  The first one
brings its rows and leaves the second one inside the table if it has a header itself;
its failure stands, and without a header nothing of it counts.

A text that is cut at a line feed has whole lines before the cut but for one character:
a carriage return at the end of the first text becomes a part of the line feed.  For the
rows that makes no difference, because a blank at the end of a line belongs to no column,
but a failure tells its line as it stands.
-/

namespace CardReboot

namespace Text

/-! ## Lines before a line feed -/

/-- The whole lines of a text, and what follows the last line feed. -/
structure Cut (text : List Char) (whole : List (List Char)) (last : List Char) : Prop where
  feed : '\n' ∉ last
  suffix : last <:+ text
  lines_eq : lines text = whole ++ lines last
  lines_append : ∀ rest, lines (text ++ '\n' :: rest) = whole ++ withoutReturn last :: lines rest

theorem exists_cut_append (text line : List Char) (hline : '\n' ∉ line) :
    ∃ whole last, Cut (line ++ text) whole last := by
  -- The line that has not ended yet grows, so it is general in the induction.
  induction text generalizing line with
  | nil =>
      rw [List.append_nil]
      exact ⟨[], line, hline, List.suffix_refl line, rfl, lines_append_feed hline⟩
  | cons c text ih =>
      by_cases hc : c = '\n'
      · subst hc
        obtain ⟨whole, last, hcut⟩ := ih [] (by simp)
        rw [List.nil_append] at hcut
        have hsuffix : last <:+ line ++ '\n' :: text :=
          hcut.suffix.trans ((List.suffix_cons '\n' text).trans (List.suffix_append line _))
        refine ⟨withoutReturn line :: whole, last, hcut.feed, hsuffix, ?_, ?_⟩
        · rw [lines_append_feed hline, hcut.lines_eq]
          rfl
        · intro rest
          rw [List.append_assoc, List.cons_append, lines_append_feed hline, hcut.lines_append]
          rfl
      · have hlonger : '\n' ∉ line ++ [c] := by simp [hline, Ne.symm hc]
        have hmore := ih (line ++ [c]) hlonger
        rw [List.append_assoc] at hmore
        exact hmore

theorem exists_cut (text : List Char) : ∃ whole last, Cut text whole last :=
  exists_cut_append text [] (by simp)

theorem lines_join (first second : List Char) :
    lines (first ++ '\n' :: second) = lines (first ++ ['\n']) ++ lines second := by
  obtain ⟨whole, last, hcut⟩ := exists_cut first
  rw [hcut.lines_append second, hcut.lines_append [], List.append_assoc]
  rfl

/-- Every line feed with a carriage return before it. -/
def returnFeeds (text : List Char) : List Char :=
  text.flatMap fun c => if c = '\n' then ['\r', '\n'] else [c]

theorem lines_returnFeeds {text : List Char} (hreturn : '\r' ∉ text) :
    lines (returnFeeds text) = lines text := by
  induction text with
  | nil => rfl
  | cons c text ih =>
      have hc : c ≠ '\r' := fun heq => hreturn (heq ▸ List.mem_cons_self)
      have hrest := ih fun hmem => hreturn (List.mem_cons_of_mem c hmem)
      by_cases hfeed : c = '\n'
      · subst hfeed
        have hfirst : lines (returnFeeds ('\n' :: text)) = [] :: lines (returnFeeds text) := rfl
        rw [hfirst, hrest]
        rfl
      · have hfirst : returnFeeds (c :: text) = c :: returnFeeds text := by
          simp [returnFeeds, hfeed]
        rw [hfirst, lines_cons hfeed (fun heq => absurd heq hc), hrest,
          lines_cons hfeed (fun heq => absurd heq hc)]

end Text

namespace TrapTable

open Text

/-! ## A blank at the end of a line -/

section Blank

variable {c : Char}

theorem stopsAt_concat_iff {p : Char → Bool} (hc : p c = false) {text : List Char} :
    StopsAt p (text ++ [c]) ↔ StopsAt p text := by
  cases text with
  | nil =>
      constructor
      · intro _ d hd
        cases hd
      · intro _ d hd
        cases hd
        exact hc
  | cons d text => exact Iff.rfl

/-- A blank at the end of a text follows its last digits. -/
theorem exists_of_concat_eq
    (hc : isBlank c = true) {text front digits rest : List Char} (hdigits : IsDigits digits)
    (htext : text ++ [c] = front ++ (digits ++ rest)) :
    ∃ shorter, rest = shorter ++ [c] ∧ text = front ++ (digits ++ shorter) := by
  rcases List.eq_nil_or_concat' rest with hnil | ⟨shorter, last, hrest⟩
  · have hlast : c ∈ digits := by
      have hends := congrArg List.getLast? htext
      rw [hnil, List.append_nil, List.getLast?_concat,
        List.getLast?_append_of_ne_nil _ hdigits.1] at hends
      exact List.mem_of_getLast? hends.symm
    have hdigit := hdigits.2 c hlast
    rw [isDigit_eq_false_of_isBlank hc] at hdigit
    cases hdigit
  · have hsame : text ++ [c] = (front ++ (digits ++ shorter)) ++ [last] := by
      rw [htext, hrest]
      simp
    obtain ⟨hfront, hlast⟩ := List.append_inj' hsame rfl
    cases hlast
    exact ⟨shorter, hrest, hfront⟩

variable (hc : isBlank c = true)

include hc

theorem countAndRate?_concat (text : List Char) :
    countAndRate? (text ++ [c]) = countAndRate? text := by
  have hdigit : isDigit c = false := isDigit_eq_false_of_isBlank hc
  apply Option.ext
  rintro ⟨count, rate⟩
  rw [countAndRate?_eq_some_iff, countAndRate?_eq_some_iff]
  constructor
  · rintro ⟨before, between, rest, htext, hbefore, hcount, hbetween, hrate, hrest⟩
    have hcut : text ++ [c] = (before ++ (count ++ between)) ++ (rate ++ rest) := by
      rw [htext]
      simp only [List.append_assoc]
    obtain ⟨shorter, rfl, hshorter⟩ := exists_of_concat_eq hc hrate hcut
    refine ⟨before, between, shorter, ?_, hbefore, hcount, hbetween, hrate,
      (stopsAt_concat_iff hdigit).mp hrest⟩
    rw [hshorter]
    simp only [List.append_assoc]
  · rintro ⟨before, between, rest, rfl, hbefore, hcount, hbetween, hrate, hrest⟩
    refine ⟨before, between, rest ++ [c], ?_, hbefore, hcount, hbetween, hrate,
      (stopsAt_concat_iff hdigit).mpr hrest⟩
    simp only [List.append_assoc]

theorem nameThenNumbers?_concat (text : List Char) :
    nameThenNumbers? (text ++ [c]) = nameThenNumbers? text := by
  induction text with
  | nil =>
      have hnothing : countAndRate? [] = none := rfl
      simp [nameThenNumbers?, hnothing]
  | cons d text ih =>
      simp only [List.cons_append, nameThenNumbers?, ih, countAndRate?_concat hc]

theorem gapThenName?_concat (text : List Char) :
    gapThenName? (text ++ [c]) = gapThenName? text := by
  induction text with
  | nil => simp [gapThenName?, nameThenNumbers?]
  | cons d text ih =>
      simp only [List.cons_append, gapThenName?, ih, nameThenNumbers?_concat hc]

theorem columns?_concat (text : List Char) : columns? (text ++ [c]) = columns? text := by
  have hdigit : isDigit c = false := isDigit_eq_false_of_isBlank hc
  apply Option.ext
  intro columns
  rw [columns?_eq_some_iff, columns?_eq_some_iff]
  constructor
  · rintro ⟨margin, afterDevice, rest, htext, hmargin, hdevice, hafter, htrapCode, hrest, hname⟩
    have hcut : text ++ [c] =
        (margin ++ (columns.device ++ afterDevice)) ++ (columns.trapCode ++ rest) := by
      rw [htext]
      simp only [List.append_assoc]
    obtain ⟨shorter, rfl, hshorter⟩ := exists_of_concat_eq hc htrapCode hcut
    rw [gapThenName?_concat hc] at hname
    refine ⟨margin, afterDevice, shorter, ?_, hmargin, hdevice, hafter, htrapCode,
      (stopsAt_concat_iff hdigit).mp hrest, hname⟩
    rw [hshorter]
    simp only [List.append_assoc]
  · rintro ⟨margin, afterDevice, rest, rfl, hmargin, hdevice, hafter, htrapCode, hrest, hname⟩
    rw [← gapThenName?_concat hc] at hname
    refine ⟨margin, afterDevice, rest ++ [c], ?_, hmargin, hdevice, hafter, htrapCode,
      (stopsAt_concat_iff hdigit).mpr hrest, hname⟩
    simp only [List.append_assoc]

end Blank

theorem columns?_withoutReturn (text : List Char) :
    columns? (withoutReturn text) = columns? text := by
  rcases eq_withoutReturn_or text with hsame | hreturn
  · rw [hsame]
  · have hconcat := columns?_concat (c := '\r') (by decide) (withoutReturn text)
    rw [← hreturn] at hconcat
    exact hconcat.symm

theorem isRowLine_withoutReturn (text : List Char) :
    isRowLine (withoutReturn text) = isRowLine text := by
  have hblank : isBlankText (withoutReturn text) = isBlankText text := by
    rcases eq_withoutReturn_or text with hsame | hreturn
    · rw [hsame]
    · have hlast : isBlank '\r' = true := by decide
      conv_rhs => rw [hreturn]
      simp [isBlankText, hlast]
  rw [isRowLine, isRowLine, isHeader_withoutReturn, hblank]

theorem number_eq_ok_of_line
    {column : TrapColumn} {limit n : Nat} {digits text : List Char}
    (hnumber : number column limit digits text = .ok n) (other : List Char) :
    number column limit digits other = .ok n := by
  unfold number at hnumber ⊢
  cases hread : Numeral.read limit (trim digits) with
  | ok value => simpa [hread] using hnumber
  | error cause => simp [hread] at hnumber

theorem record_eq_ok_of_line
    {columns : Columns} {text : List Char} {r : TrapRecord}
    (hrecord : record columns text = .ok r) (other : List Char) :
    record columns other = .ok r := by
  obtain ⟨hdevice, htrapCode, hname, hcount, hrate⟩ := exists_of_record_eq_ok hrecord
  rw [record, number_eq_ok_of_line hdevice, number_eq_ok_of_line htrapCode,
    number_eq_ok_of_line hcount, number_eq_ok_of_line hrate, ← hname]
  rfl

theorem line_withoutReturn_of_ok
    {text : List Char} {found : Option TrapRecord} (hline : line text = .ok found) :
    line (withoutReturn text) = .ok found := by
  cases htext : isRowLine text with
  | false =>
      have hwithout : isRowLine (withoutReturn text) = false := by
        rw [isRowLine_withoutReturn, htext]
      rw [line_of_not_isRowLine hwithout, ← hline, line_of_not_isRowLine htext]
  | true =>
      obtain ⟨columns, r, hcolumns, hrecord, rfl⟩ := exists_of_line_eq_ok htext hline
      rw [← columns?_withoutReturn] at hcolumns
      rw [line_of_columns hcolumns, record_eq_ok_of_line hrecord (withoutReturn text)]
      rfl

/-- A line that cannot be read is told word by word. -/
theorem exists_of_line_eq_error
    {text : List Char} {failure : Failure} (hline : line text = .error failure) :
    failure = .malformedLine (String.ofList text) ∨
      ∃ column cause, failure = .invalidNumber column (String.ofList text) cause := by
  cases htext : isRowLine text with
  | false => simp [line_of_not_isRowLine htext] at hline
  | true =>
      cases hcolumns : columns? text with
      | none =>
          rw [line_of_no_columns htext hcolumns] at hline
          cases hline
          exact .inl rfl
      | some columns =>
          rw [line_of_columns hcolumns] at hline
          rcases bind_eq_error_iff.mp hline with hrecord | ⟨r, -, hnothing⟩
          · exact .inr (exists_of_record_eq_error hrecord)
          · cases hnothing

/-! ## Lines in sequence -/

theorem records_append (first second : List (List Char)) :
    records (first ++ second) = do
      let found ← records first
      let more ← records second
      return found ++ more := by
  induction first with
  | nil =>
      change records second = _
      simp only [records]
      cases records second <;> rfl
  | cons text first ih =>
      rw [List.cons_append, records, ih, records]
      cases line text with
      | error failure => rfl
      | ok found =>
          cases records first with
          | error failure => rfl
          | ok rows =>
              cases records second with
              | error failure => rfl
              | ok more =>
                  change Except.ok _ = Except.ok _
                  rw [List.append_assoc]

theorem dropWhile_of_no_header
    {texts : List (List Char)} (hno : texts.any isHeader = false) (more : List (List Char)) :
    (texts ++ more).dropWhile (fun text => !isHeader text) =
      more.dropWhile fun text => !isHeader text := by
  apply List.dropWhile_append_of_pos
  simpa using hno

theorem records_dropWhile_append (first second : List (List Char)) :
    records ((first ++ second).dropWhile fun text => !isHeader text) =
      if first.any isHeader then do
        let found ← records (first.dropWhile fun text => !isHeader text)
        let more ← records second
        return found ++ more
      else records (second.dropWhile fun text => !isHeader text) := by
  cases hany : first.any isHeader with
  | false => simp only [dropWhile_of_no_header hany, Bool.false_eq_true, if_false]
  | true =>
      have hstops : (first.dropWhile fun text => !isHeader text).isEmpty = false := by
        rw [List.isEmpty_eq_false_iff, ne_eq, List.dropWhile_eq_nil_iff]
        simpa using hany
      rw [List.dropWhile_append, hstops]
      simp only [Bool.false_eq_true, if_false, if_true, records_append]

/-- What the line behind others is read as: it counts when there is a header among them. -/
def lineBehind (whole : List (List Char)) (last : List Char) : Outcome (Option TrapRecord) :=
  if whole.any isHeader then line last else .ok none

theorem records_dropWhile_concat (whole : List (List Char)) (last : List Char) :
    records ((whole ++ [last]).dropWhile fun text => !isHeader text) = do
      let found ← records (whole.dropWhile fun text => !isHeader text)
      let more ← lineBehind whole last
      return found ++ more.toList := by
  have hlast : records [last] = do
      let more ← line last
      return more.toList := by
    simp only [records]
    cases line last with
    | error failure => rfl
    | ok more => exact congrArg Except.ok (List.append_nil more.toList)
  rw [records_dropWhile_append, lineBehind]
  cases hany : whole.any isHeader with
  | false =>
      have hnothing := dropWhile_of_no_header hany []
      rw [List.append_nil] at hnothing
      rw [hnothing]
      cases hheader : isHeader last with
      | false =>
          rw [List.dropWhile_cons_of_pos (by simp [hheader])]
          rfl
      | true =>
          have hread := line_of_not_isRowLine (isRowLine_eq_false_of_header hheader)
          rw [List.dropWhile_cons_of_neg (by simp [hheader]), hlast, hread]
          rfl
  | true =>
      simp only [if_true, hlast]
      cases records (whole.dropWhile fun text => !isHeader text) with
      | error failure => rfl
      | ok found => cases line last <;> rfl

theorem lineBehind_of_ok
    {whole : List (List Char)} {last : List Char} {found : Option TrapRecord}
    (hline : lineBehind whole last = .ok found) :
    lineBehind whole (withoutReturn last) = .ok found := by
  unfold lineBehind at hline ⊢
  cases hany : whole.any isHeader with
  | false => simpa [hany] using hline
  | true =>
      simp only [hany, if_true] at hline ⊢
      exact line_withoutReturn_of_ok hline

/-! ## Outputs in sequence -/

section Join

variable {first : String} {whole : List (List Char)} {last : List Char}
  (hcut : Cut first.toList whole last)

include hcut

theorem parse_eq_of_cut :
    parse first = records ((whole ++ [last]).dropWhile fun text => !isHeader text) := by
  rw [parse, hcut.lines_eq]
  -- An empty last line without an ending is not seen, and would be blank.
  by_cases hempty : last = []
  · have hlines : lines [] = [] := rfl
    have hblank : lineBehind whole [] = .ok none := ite_self (Except.ok none)
    rw [hempty, records_dropWhile_concat, hblank, hlines, List.append_nil]
    cases records (whole.dropWhile fun text => !isHeader text) with
    | error failure => rfl
    | ok found => exact congrArg Except.ok (List.append_nil found).symm
  · rw [lines_eq_singleton hempty hcut.feed]

theorem parse_append_feed_eq_of_cut :
    parse (first ++ "\n") =
      records ((whole ++ [withoutReturn last]).dropWhile fun text => !isHeader text) := by
  have hlines : lines (first ++ "\n").toList = whole ++ [withoutReturn last] := by
    rw [String.toList_append]
    exact hcut.lines_append []
  rw [parse, hlines]

theorem any_isHeader_of_cut :
    (lines (first.toList ++ ['\n'])).any isHeader = (lines first.toList).any isHeader := by
  have hlast : (lines last).any isHeader = isHeader last := by
    by_cases hempty : last = []
    · rw [hempty]
      rfl
    · simp [lines_eq_singleton hempty hcut.feed]
  have hfeed : lines (first.toList ++ ['\n']) = whole ++ [withoutReturn last] :=
    hcut.lines_append []
  rw [hfeed, hcut.lines_eq, List.any_append, List.any_append, hlast]
  simp [isHeader_withoutReturn]

end Join

variable {first : String}

theorem parse_append_feed_of_ok
    {found : List TrapRecord} (hparse : parse first = .ok found) :
    parse (first ++ "\n") = .ok found := by
  obtain ⟨whole, last, hcut⟩ := exists_cut first.toList
  rw [parse_eq_of_cut hcut, records_dropWhile_concat] at hparse
  obtain ⟨rows, hrows, hparse⟩ := exists_of_bind_eq_ok hparse
  obtain ⟨more, hmore, hfound⟩ := exists_of_bind_eq_ok hparse
  rw [parse_append_feed_eq_of_cut hcut, records_dropWhile_concat, hrows,
    lineBehind_of_ok hmore]
  exact hfound

theorem parse_append_feed
    (hreturn : first.toList.getLast? ≠ some '\r') : parse (first ++ "\n") = parse first := by
  obtain ⟨whole, last, hcut⟩ := exists_cut first.toList
  have hlast : withoutReturn last = last := by
    rcases eq_withoutReturn_or last with hsame | hends
    · exact hsame
    · obtain ⟨front, hfront⟩ := hcut.suffix
      refine absurd ?_ hreturn
      rw [← hfront, hends, ← List.append_assoc, List.getLast?_concat]
  rw [parse_append_feed_eq_of_cut hcut, hlast, parse_eq_of_cut hcut]

/-- The second output is read as a part of the table when the first one has a header. -/
theorem parse_join_eq (first second : String) :
    parse (first ++ "\n" ++ second) =
      if (lines first.toList).any isHeader then do
        let found ← parse (first ++ "\n")
        let more ← records (lines second.toList)
        return found ++ more
      else parse second := by
  obtain ⟨whole, last, hcut⟩ := exists_cut first.toList
  have htext : (first ++ "\n" ++ second).toList = first.toList ++ '\n' :: second.toList := by
    simp [String.toList_append]
  have hfirst : (first ++ "\n").toList = first.toList ++ ['\n'] := by
    simp [String.toList_append]
  rw [parse, htext, lines_join, records_dropWhile_append, any_isHeader_of_cut hcut, parse, hfirst,
    parse]

theorem parse_header_join (second : String) :
    parse ("DEV" ++ "\n" ++ second) = records (lines second.toList) := by
  have hheader : (lines "DEV".toList).any isHeader = true := rfl
  have hnothing : parse ("DEV" ++ "\n") = .ok [] := rfl
  rw [parse_join_eq, if_pos hheader, hnothing]
  cases records (lines second.toList) <;> rfl

theorem any_isHeader_of_parse_eq_error
    {failure : Failure} (hparse : parse first = .error failure) :
    (lines first.toList).any isHeader = true := by
  cases hany : (lines first.toList).any isHeader with
  | true => rfl
  | false =>
      have hnothing := dropWhile_of_no_header hany []
      rw [List.append_nil] at hnothing
      rw [parse, hnothing] at hparse
      cases hparse

/-- Outputs are read in sequence.  One without a header counts for nothing; behind one with
a header that can be read, the next is read as behind a header, and its rows follow; and a
failure stands, and shows the first line that cannot be read. -/
theorem parse_join (first second : String) :
    ((∀ text ∈ lines first.toList, isHeader text = false) →
      parse (first ++ "\n" ++ second) = parse second) ∧
    (∀ text ∈ lines first.toList, isHeader text = true → ∀ found, parse first = .ok found →
      (∀ more, parse ("DEV" ++ "\n" ++ second) = .ok more →
        parse (first ++ "\n" ++ second) = .ok (found ++ more)) ∧
      ∀ failure, parse ("DEV" ++ "\n" ++ second) = .error failure →
        parse (first ++ "\n" ++ second) = .error failure) ∧
    (∀ failure, parse first = .error failure →
      (first.toList.getLast? ≠ some '\r' → parse (first ++ "\n" ++ second) = .error failure) ∧
      ∃ before text after, tableLines first = before ++ text :: after ∧
        (∀ earlier ∈ before, ∃ found, line earlier = .ok found) ∧ line text = .error failure ∧
        (failure = .malformedLine (String.ofList text) ∨
          ∃ column cause, failure = .invalidNumber column (String.ofList text) cause)) ∧
    ('\r' ∉ first.toList →
      parse (String.ofList (returnFeeds first.toList)) = parse first) := by
  refine ⟨?_, ?_, ?_, ?_⟩
  · intro hno
    have hany : (lines first.toList).any isHeader = false := by simpa using hno
    rw [parse_join_eq, hany]
    rfl
  · intro text htext hheader found hparse
    have hany : (lines first.toList).any isHeader = true :=
      List.any_eq_true.mpr ⟨text, htext, hheader⟩
    rw [parse_header_join, parse_join_eq first, if_pos hany, parse_append_feed_of_ok hparse]
    constructor
    · intro more hmore
      rw [hmore]
      rfl
    · intro failure hfailure
      rw [hfailure]
      rfl
  · intro failure hparse
    constructor
    · intro hreturn
      rw [parse_join_eq, if_pos (any_isHeader_of_parse_eq_error hparse),
        parse_append_feed hreturn, hparse]
      rfl
    · rw [parse_eq, records_eq_error_iff] at hparse
      obtain ⟨before, text, after, hlines, hbefore, hline⟩ := hparse
      exact ⟨before, text, after, hlines, hbefore, hline, exists_of_line_eq_error hline⟩
  · intro hreturn
    rw [parse, String.toList_ofList, lines_returnFeeds hreturn, parse]

end TrapTable

end CardReboot
