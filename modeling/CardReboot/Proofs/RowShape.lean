import CardReboot.Proofs.CharacterClass
import CardReboot.TrapTable.Row

/-!
# The shape of a table row

A row is made of five columns with gaps between them.  The reader takes digits and
blanks as far as they go, and the name as far as two numbers still follow it.  Each
of its steps is said here in terms of how the text is cut into pieces: a row that is
read has such a cut, and a text with such a cut is read.  What follows the last digit
of the rate belongs to no column, and the reader never looks at it.
-/

namespace CardReboot

namespace Text

/-! ## Runs of characters -/

/-- Blanks only, and at least one. -/
def IsGap (text : List Char) : Prop :=
  text ≠ [] ∧ ∀ c ∈ text, isBlank c = true

/-- Digits only, and at least one. -/
def IsDigits (text : List Char) : Prop :=
  text ≠ [] ∧ ∀ c ∈ text, isDigit c = true

instance (text : List Char) : Decidable (IsDigits text) :=
  decidable_of_iff (text ≠ [] ∧ text.all isDigit = true) (by simp [IsDigits])

/-- The text is at its end or goes on with a character outside the class. -/
def StopsAt (p : Char → Bool) (text : List Char) : Prop :=
  ∀ c, text.head? = some c → p c = false

theorem stopsAt_nil (p : Char → Bool) : StopsAt p [] := by
  intro c hc
  cases hc

theorem stopsAt_cons {p : Char → Bool} {mark : Char} (hmark : p mark = false)
    (rest : List Char) : StopsAt p (mark :: rest) := by
  intro c hc
  rwa [← Option.some.inj hc]

theorem stopsAt_dropWhile (p : Char → Bool) (text : List Char) :
    StopsAt p (text.dropWhile p) := by
  intro c hc
  have hhead := List.head?_dropWhile_not p text
  rw [hc] at hhead
  exact hhead

theorem stopsAt_append_iff
    {p : Char → Bool} {front rest : List Char} (hne : front ≠ []) :
    StopsAt p (front ++ rest) ↔ StopsAt p front := by
  cases front with
  | nil => exact absurd rfl hne
  | cons c front => exact Iff.rfl

theorem stopsAt_append
    {p : Char → Bool} {front : List Char} (hne : front ≠ [])
    (hfront : ∀ c ∈ front, p c = false) (rest : List Char) :
    StopsAt p (front ++ rest) :=
  (stopsAt_append_iff hne).mpr fun c hc => hfront c (List.mem_of_head? hc)

theorem takeWhile_append_of_stopsAt
    {p : Char → Bool} {front rest : List Char}
    (hfront : ∀ c ∈ front, p c = true) (hrest : StopsAt p rest) :
    (front ++ rest).takeWhile p = front := by
  have hstop : rest.takeWhile p = [] := by
    cases rest with
    | nil => rfl
    | cons c rest => simp [hrest c rfl]
  rw [List.takeWhile_append_of_pos hfront, hstop, List.append_nil]

theorem dropWhile_append_of_stopsAt
    {p : Char → Bool} {front rest : List Char}
    (hfront : ∀ c ∈ front, p c = true) (hrest : StopsAt p rest) :
    (front ++ rest).dropWhile p = rest := by
  rw [List.dropWhile_append_of_pos hfront]
  cases rest with
  | nil => rfl
  | cons c rest => simp [hrest c rfl]

/-- Taking the characters of a class at the start of a text, at least one, is cutting the
text where the first of another class stands. -/
theorem taken_eq_some_iff
    {p : Char → Bool} {text found rest : List Char} :
    (if (text.takeWhile p).isEmpty then none
        else some (text.takeWhile p, text.dropWhile p)) = some (found, rest) ↔
      text = found ++ rest ∧ (found ≠ [] ∧ ∀ c ∈ found, p c = true) ∧ StopsAt p rest := by
  constructor
  · intro hread
    split at hread
    · cases hread
    · next hsome =>
        cases hread
        refine ⟨List.takeWhile_append_dropWhile.symm, ⟨?_, ?_⟩, stopsAt_dropWhile _ _⟩
        · simpa using hsome
        · exact List.all_eq_true.mp List.all_takeWhile
  · intro hshape
    obtain ⟨rfl, hfound, hrest⟩ := hshape
    rw [takeWhile_append_of_stopsAt hfound.2 hrest,
      dropWhile_append_of_stopsAt hfound.2 hrest]
    simp [hfound.1]

theorem IsDigits.stopsAt_isBlank {text : List Char} (hdigits : IsDigits text)
    (rest : List Char) : StopsAt isBlank (text ++ rest) :=
  stopsAt_append hdigits.1 (fun c hc => isBlank_eq_false_of_isDigit (hdigits.2 c hc)) rest

theorem IsGap.stopsAt_isDigit {text : List Char} (hgap : IsGap text)
    (rest : List Char) : StopsAt isDigit (text ++ rest) :=
  stopsAt_append hgap.1 (fun c hc => isDigit_eq_false_of_isBlank (hgap.2 c hc)) rest

/-! ## Trimming -/

theorem trimLeft_eq_trim_append (text : List Char) :
    trimLeft text = trim text ++ ((trimLeft text).reverse.takeWhile isBlank).reverse := by
  rw [trim, trimRight, ← List.reverse_append, List.takeWhile_append_dropWhile,
    List.reverse_reverse]

/-- Trimming removes blanks only. -/
theorem exists_eq_append_trim (text : List Char) :
    ∃ before after, text = before ++ (trim text ++ after) ∧
      (∀ c ∈ before, isBlank c = true) ∧ ∀ c ∈ after, isBlank c = true := by
  have hleft : text = text.takeWhile isBlank ++ trimLeft text :=
    List.takeWhile_append_dropWhile.symm
  refine ⟨text.takeWhile isBlank, ((trimLeft text).reverse.takeWhile isBlank).reverse,
    ?_, ?_, ?_⟩
  · rw [← trimLeft_eq_trim_append]
    exact hleft
  · exact List.all_eq_true.mp List.all_takeWhile
  · intro c hc
    exact List.all_eq_true.mp List.all_takeWhile c (List.mem_reverse.mp hc)

/-- A text that blanks surround comes back when it starts and ends with none. -/
theorem trim_append
    {before text after : List Char} (hne : text ≠ [])
    (hbefore : ∀ c ∈ before, isBlank c = true) (hafter : ∀ c ∈ after, isBlank c = true)
    (hstart : StopsAt isBlank text) (hend : StopsAt isBlank text.reverse) :
    trim (before ++ (text ++ after)) = text := by
  have hfirst : StopsAt isBlank (text ++ after) := (stopsAt_append_iff hne).mpr hstart
  have hleft : trimLeft (before ++ (text ++ after)) = text ++ after :=
    dropWhile_append_of_stopsAt hbefore hfirst
  have hreversed : ∀ c ∈ after.reverse, isBlank c = true :=
    fun c hc => hafter c (List.mem_reverse.mp hc)
  rw [trim, hleft, trimRight, List.reverse_append,
    dropWhile_append_of_stopsAt hreversed hend, List.reverse_reverse]

end Text

namespace TrapTable

open Text

/-! ## Digits, gaps, and the two numbers -/

theorem digits?_eq_some_iff {text found rest : List Char} :
    digits? text = some (found, rest) ↔
      text = found ++ rest ∧ IsDigits found ∧ StopsAt isDigit rest :=
  taken_eq_some_iff

theorem gap?_eq_some_iff {text rest : List Char} :
    gap? text = some rest ↔
      ∃ gap, text = gap ++ rest ∧ IsGap gap ∧ StopsAt isBlank rest := by
  constructor
  · intro hread
    cases text with
    | nil => cases hread
    | cons c text =>
        rw [gap?] at hread
        split at hread
        · next hblank =>
            cases hread
            refine ⟨c :: text.takeWhile isBlank, ?_, ⟨List.cons_ne_nil _ _, ?_⟩,
              stopsAt_dropWhile _ _⟩
            · rw [List.cons_append, List.takeWhile_append_dropWhile]
            · intro d hd
              rcases List.mem_cons.mp hd with rfl | hd
              · exact hblank
              · exact List.all_eq_true.mp List.all_takeWhile d hd
        · cases hread
  · rintro ⟨gap, rfl, hgap, hrest⟩
    cases gap with
    | nil => exact absurd rfl hgap.1
    | cons c gap =>
        have hmore : ∀ d ∈ gap, isBlank d = true :=
          fun d hd => hgap.2 d (List.mem_cons_of_mem c hd)
        rw [List.cons_append, gap?, if_pos (hgap.2 c List.mem_cons_self),
          dropWhile_append_of_stopsAt hmore hrest]

theorem countAndRate?_eq_some_iff {text count rate : List Char} :
    countAndRate? text = some (count, rate) ↔
      ∃ before between rest,
        text = before ++ (count ++ (between ++ (rate ++ rest))) ∧
          IsGap before ∧ IsDigits count ∧ IsGap between ∧ IsDigits rate ∧
            StopsAt isDigit rest := by
  constructor
  · intro hread
    simp only [countAndRate?, Option.bind_eq_bind, Option.bind_eq_some_iff, Prod.exists,
      Option.some.injEq, Prod.mk.injEq] at hread
    obtain ⟨_, hfirst, count, _, hsecond, _, hthird, rate, rest, hfourth, rfl, rfl⟩ := hread
    obtain ⟨before, rfl, hbefore, -⟩ := gap?_eq_some_iff.mp hfirst
    obtain ⟨rfl, hcount, -⟩ := digits?_eq_some_iff.mp hsecond
    obtain ⟨between, rfl, hbetween, -⟩ := gap?_eq_some_iff.mp hthird
    obtain ⟨rfl, hrate, hrest⟩ := digits?_eq_some_iff.mp hfourth
    exact ⟨before, between, rest, rfl, hbefore, hcount, hbetween, hrate, hrest⟩
  · rintro ⟨before, between, rest, rfl, hbefore, hcount, hbetween, hrate, hrest⟩
    have hfirst := gap?_eq_some_iff.mpr
      ⟨before, rfl, hbefore, hcount.stopsAt_isBlank (between ++ (rate ++ rest))⟩
    have hsecond := digits?_eq_some_iff.mpr
      ⟨rfl, hcount, hbetween.stopsAt_isDigit (rate ++ rest)⟩
    have hthird := gap?_eq_some_iff.mpr
      ⟨between, rfl, hbetween, hrate.stopsAt_isBlank rest⟩
    have hfourth := digits?_eq_some_iff.mpr ⟨rfl, hrate, hrest⟩
    simp [countAndRate?, hfirst, hsecond, hthird, hfourth]

/-! ## The name -/

theorem exists_of_nameThenNumbers?
    {text name : List Char} {numbers : List Char × List Char}
    (hread : nameThenNumbers? text = some (name, numbers)) :
    ∃ rest, text = name ++ rest ∧ name ≠ [] ∧ (∀ c ∈ name, isNameCharacter c = true) ∧
      countAndRate? rest = some numbers := by
  induction text generalizing name with
  | nil => cases hread
  | cons c text ih =>
      rw [nameThenNumbers?] at hread
      split at hread
      · next hc =>
          cases hlonger : nameThenNumbers? text with
          | some longer =>
              rw [hlonger] at hread
              cases hread
              obtain ⟨rest, rfl, hne, hname, hnumbers⟩ := ih hlonger
              refine ⟨rest, rfl, List.cons_ne_nil _ _, ?_, hnumbers⟩
              exact List.forall_mem_cons.mpr ⟨hc, hname⟩
          | none =>
              simp only [hlonger, Option.map_eq_some_iff, Prod.mk.injEq] at hread
              obtain ⟨_, hnumbers, rfl, rfl⟩ := hread
              exact ⟨text, rfl, List.cons_ne_nil _ _, by simpa using hc, hnumbers⟩
      · cases hread

theorem isSome_nameThenNumbers?
    {name rest : List Char} (hne : name ≠ [])
    (hname : ∀ c ∈ name, isNameCharacter c = true)
    (hnumbers : (countAndRate? rest).isSome = true) :
    (nameThenNumbers? (name ++ rest)).isSome = true := by
  induction name with
  | nil => exact absurd rfl hne
  | cons c name ih =>
      obtain ⟨hc, hname⟩ := List.forall_mem_cons.mp hname
      rw [List.cons_append, nameThenNumbers?, if_pos hc]
      cases name with
      | nil =>
          cases nameThenNumbers? ([] ++ rest) with
          | some found => rfl
          | none => simpa using hnumbers
      | cons d name =>
          have hlonger := ih (List.cons_ne_nil _ _) hname
          obtain ⟨found, hfound⟩ := Option.isSome_iff_exists.mp hlonger
          rw [hfound]
          rfl

/-- From no place in the text on a count and a rate can be read. -/
def NumberFree (text : List Char) : Prop :=
  ∀ rest, rest <:+ text → countAndRate? rest = none

theorem NumberFree.of_cons {c : Char} {text : List Char} (hfree : NumberFree (c :: text)) :
    NumberFree text :=
  fun rest hrest => hfree rest (hrest.trans (List.suffix_cons c text))

theorem nameThenNumbers?_eq_none {c : Char} {text : List Char} (hfree : NumberFree text) :
    nameThenNumbers? (c :: text) = none := by
  have hhere : countAndRate? text = none := hfree text (List.suffix_refl text)
  induction text generalizing c with
  | nil => simp [nameThenNumbers?, hhere]
  | cons d text ih =>
      have hrest : countAndRate? text = none := hfree text (List.suffix_cons d text)
      rw [nameThenNumbers?, ih hfree.of_cons hrest, hhere]
      simp

/-- The name goes up to the last place that the two numbers can follow. -/
theorem nameThenNumbers?_append
    {name : List Char} {c : Char} {rest : List Char} {numbers : List Char × List Char}
    (hne : name ≠ []) (hname : ∀ d ∈ name, isNameCharacter d = true)
    (hnumbers : countAndRate? (c :: rest) = some numbers) (hfree : NumberFree rest) :
    nameThenNumbers? (name ++ c :: rest) = some (name, numbers) := by
  induction name with
  | nil => exact absurd rfl hne
  | cons d name ih =>
      obtain ⟨hd, hname⟩ := List.forall_mem_cons.mp hname
      rw [List.cons_append, nameThenNumbers?, if_pos hd]
      cases name with
      | nil =>
          have hnone : nameThenNumbers? (c :: rest) = none := nameThenNumbers?_eq_none hfree
          simp [hnone, hnumbers]
      | cons e name => rw [ih (List.cons_ne_nil _ _) hname]

/-! ## Texts without two numbers -/

theorem exists_digit_of_countAndRate?
    {text : List Char} {numbers : List Char × List Char}
    (hread : countAndRate? text = some numbers) :
    (∃ c, text.head? = some c ∧ isBlank c = true) ∧ ∃ c ∈ text, isDigit c = true := by
  obtain ⟨count, rate⟩ := numbers
  obtain ⟨before, between, rest, rfl, hbefore, hcount, -⟩ :=
    countAndRate?_eq_some_iff.mp hread
  constructor
  · cases before with
    | nil => exact absurd rfl hbefore.1
    | cons c before => exact ⟨c, rfl, hbefore.2 c List.mem_cons_self⟩
  · obtain ⟨c, hc⟩ := List.exists_mem_of_ne_nil count hcount.1
    refine ⟨c, ?_, hcount.2 c hc⟩
    exact List.mem_append_right _ (List.mem_append_left _ hc)

theorem numberFree_of_blank {text : List Char} (hblank : ∀ c ∈ text, isBlank c = true) :
    NumberFree text := by
  intro rest hrest
  rw [Option.eq_none_iff_forall_ne_some]
  intro numbers hread
  obtain ⟨-, c, hc, hdigit⟩ := exists_digit_of_countAndRate? hread
  rw [isDigit_eq_false_of_isBlank (hblank c (hrest.mem hc))] at hdigit
  cases hdigit

theorem NumberFree.digits_append
    {found rest : List Char} (hfound : ∀ c ∈ found, isDigit c = true)
    (hrest : NumberFree rest) : NumberFree (found ++ rest) := by
  induction found with
  | nil => exact hrest
  | cons d found ih =>
      obtain ⟨hd, hfound⟩ := List.forall_mem_cons.mp hfound
      intro text htext
      rcases List.suffix_cons_iff.mp htext with rfl | htext
      · rw [Option.eq_none_iff_forall_ne_some]
        intro numbers hread
        obtain ⟨⟨c, hc, hblank⟩, -⟩ := exists_digit_of_countAndRate? hread
        cases hc
        rw [isBlank_eq_false_of_isDigit hd] at hblank
        cases hblank
      · exact ih hfound text htext

theorem countAndRate?_of_one_number
    {gap found after : List Char} (hgap : IsGap gap) (hfound : IsDigits found)
    (hafter : ∀ c ∈ after, isBlank c = true) :
    countAndRate? (gap ++ (found ++ after)) = none := by
  have hstop : StopsAt isDigit after := by
    intro c hc
    exact isDigit_eq_false_of_isBlank (hafter c (List.mem_of_head? hc))
  have hfirst := gap?_eq_some_iff.mpr ⟨gap, rfl, hgap, hfound.stopsAt_isBlank after⟩
  have hsecond := digits?_eq_some_iff.mpr ⟨rfl, hfound, hstop⟩
  have hnothing : ∀ rest, gap? after = some rest → digits? rest = none := by
    intro rest hrest
    obtain ⟨between, rfl, -, -⟩ := gap?_eq_some_iff.mp hrest
    rw [Option.eq_none_iff_forall_ne_some]
    intro more hmore
    obtain ⟨rfl, hmore, -⟩ := digits?_eq_some_iff.mp hmore
    obtain ⟨c, hc⟩ := List.exists_mem_of_ne_nil more.1 hmore.1
    have hblank := hafter c (List.mem_append_right _ (List.mem_append_left _ hc))
    rw [isBlank_eq_false_of_isDigit (hmore.2 c hc)] at hblank
    cases hblank
  simp only [countAndRate?, hfirst, hsecond, Option.bind_eq_bind, Option.bind_some]
  cases hthird : gap? after with
  | none => rfl
  | some rest => simp [hnothing rest hthird]

/-- A gap, one number and blanks leave no room for a second number. -/
theorem numberFree_of_one_number
    {gap found after : List Char} (hgap : ∀ c ∈ gap, isBlank c = true)
    (hfound : IsDigits found) (hafter : ∀ c ∈ after, isBlank c = true) :
    NumberFree (gap ++ (found ++ after)) := by
  induction gap with
  | nil =>
      rw [List.nil_append]
      exact (numberFree_of_blank hafter).digits_append hfound.2
  | cons c gap ih =>
      intro text htext
      rcases List.suffix_cons_iff.mp htext with rfl | htext
      · exact countAndRate?_of_one_number ⟨List.cons_ne_nil _ _, hgap⟩ hfound hafter
      · exact ih (fun d hd => hgap d (List.mem_cons_of_mem c hd)) text htext

/-! ## The gap before the name -/

theorem exists_of_gapThenName?
    {text : List Char} {found : List Char × List Char × List Char}
    (hread : gapThenName? text = some found) :
    ∃ gap rest, text = gap ++ rest ∧ IsGap gap ∧ nameThenNumbers? rest = some found := by
  induction text with
  | nil => cases hread
  | cons c text ih =>
      rw [gapThenName?] at hread
      split at hread
      · next hc =>
          cases hlonger : gapThenName? text with
          | some longer =>
              rw [hlonger] at hread
              cases hread
              obtain ⟨gap, rest, rfl, hgap, hname⟩ := ih hlonger
              refine ⟨c :: gap, rest, rfl, ⟨List.cons_ne_nil _ _, ?_⟩, hname⟩
              exact List.forall_mem_cons.mpr ⟨hc, hgap.2⟩
          | none =>
              rw [hlonger] at hread
              refine ⟨[c], text, rfl, ⟨List.cons_ne_nil _ _, ?_⟩, hread⟩
              simpa using hc
      · cases hread

theorem isSome_gapThenName?
    {gap rest : List Char} (hgap : IsGap gap)
    (hname : (nameThenNumbers? rest).isSome = true) :
    (gapThenName? (gap ++ rest)).isSome = true := by
  obtain ⟨hne, hblank⟩ := hgap
  induction gap with
  | nil => exact absurd rfl hne
  | cons c gap ih =>
      obtain ⟨hc, hblank⟩ := List.forall_mem_cons.mp hblank
      rw [List.cons_append, gapThenName?, if_pos hc]
      cases gap with
      | nil =>
          cases gapThenName? ([] ++ rest) with
          | some found => rfl
          | none => exact hname
      | cons d gap =>
          have hlonger := ih (List.cons_ne_nil _ _) hblank
          obtain ⟨found, hfound⟩ := Option.isSome_iff_exists.mp hlonger
          rw [hfound]
          rfl

/-- The whole gap is skipped when the name starts behind it. -/
theorem gapThenName?_append
    {gap rest : List Char} {found : List Char × List Char × List Char}
    (hgap : IsGap gap) (hrest : StopsAt isBlank rest)
    (hname : nameThenNumbers? rest = some found) :
    gapThenName? (gap ++ rest) = some found := by
  obtain ⟨hne, hblank⟩ := hgap
  induction gap with
  | nil => exact absurd rfl hne
  | cons c gap ih =>
      obtain ⟨hc, hblank⟩ := List.forall_mem_cons.mp hblank
      rw [List.cons_append, gapThenName?, if_pos hc]
      cases gap with
      | nil =>
          have hnone : gapThenName? rest = none := by
            cases rest with
            | nil => rfl
            | cons d rest => simp [gapThenName?, hrest d rfl]
          rw [List.nil_append, hnone]
          exact hname
      | cons d gap => rw [ih (List.cons_ne_nil _ _) hblank]

end TrapTable

end CardReboot
