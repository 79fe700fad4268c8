import CardReboot.Json.Reader
import CardReboot.Proofs.RowReading

/-!
# Reading JSON numbers

A number is written with digits before the point, perhaps with decimals, and perhaps with a
power of ten.  What it is read as depends on these characters alone and not on the text
behind them, and there is one fault only that reading it can end in: the number is out of
range.  A whole number that fits its sixty-four bits is read as it stands.
-/

namespace CardReboot.JsonReader

open Text

/-! ## How numbers are written -/

/-- Digits before the point: no zero stands in front of others. -/
structure IsWhole (text : List Char) : Prop where
  numeral : IsNumeral text
  zero : text.head? = some '0' → text = ['0']

inductive IsDecimals : List Char → Prop
  | none : IsDecimals []
  | behindPoint {digits : List Char} (hdigits : IsNumeral digits) : IsDecimals ('.' :: digits)

inductive IsPower : List Char → Prop
  | none : IsPower []
  | behindMark
      {mark : Char} {sign digits : List Char} (hmark : mark = 'e' ∨ mark = 'E')
      (hsign : sign = [] ∨ sign = ['+'] ∨ sign = ['-']) (hdigits : IsNumeral digits) :
      IsPower (mark :: (sign ++ digits))

/-- A number without its sign. -/
inductive IsUnsigned : List Char → Prop
  | parts
      {whole decimals power : List Char} (hwhole : IsWhole whole)
      (hdecimals : IsDecimals decimals) (hpower : IsPower power) :
      IsUnsigned (whole ++ (decimals ++ power))

theorem isWhole_digit {c : Char} (hc : isAsciiDigit c = true) : IsWhole [c] := by
  refine ⟨⟨List.cons_ne_nil c [], by simpa using hc⟩, ?_⟩
  intro hhead
  rw [Option.some.inj hhead]

/-- A character that goes on with a number behind one of its digits. -/
def isNumberPart (c : Char) : Bool := isAsciiDigit c || c == '.' || c == 'e' || c == 'E'

theorem isAsciiDigit_of_not_isNumberPart {c : Char} (hc : isNumberPart c = false) :
    isAsciiDigit c = false ∧ c ≠ '.' ∧ c ≠ 'e' ∧ c ≠ 'E' := by
  simpa [isNumberPart, and_assoc] using hc

theorem ne_of_isAsciiDigit {c mark : Char} (hc : isAsciiDigit c = true)
    (hmark : isAsciiDigit mark = false) : c ≠ mark := by
  intro hsame
  rw [hsame, hmark] at hc
  cases hc

theorem stopsAt_isAsciiDigit {rest : List Char} (hrest : StopsAt isNumberPart rest) :
    StopsAt isAsciiDigit rest :=
  fun c hc => (isAsciiDigit_of_not_isNumberPart (hrest c hc)).1

/-! ## Reading alike whatever follows -/

/-- The number is read and the rest is left, or the number is out of range. -/
inductive Ends (rest : List Char) : Option JsonNumber → Reading JsonNumber → Prop
  | number (n : JsonNumber) : Ends rest (some n) (.ok (n, rest))
  | outOfRange (left : List Char) : Ends rest none (stopAt .numberOutOfRange left)

/-- The text is read as one number, or is out of range, whatever follows it. -/
def ReadsAlike (read : List Char → Reading JsonNumber) (text : List Char) : Prop :=
  ∃ result, ∀ rest, StopsAt isNumberPart rest → Ends rest result (read (text ++ rest))

theorem ReadsAlike.of_eq
    {read read' : List Char → Reading JsonNumber} {text text' : List Char}
    (halike : ReadsAlike read' text')
    (heq : ∀ rest, StopsAt isNumberPart rest → read (text ++ rest) = read' (text' ++ rest)) :
    ReadsAlike read text := by
  obtain ⟨result, hends⟩ := halike
  refine ⟨result, ?_⟩
  intro rest hrest
  rw [heq rest hrest]
  exact hends rest hrest

theorem readsAlike_ok (n : JsonNumber) : ReadsAlike (fun text => .ok (n, text)) [] :=
  ⟨some n, fun _ _ => .number n⟩

/-- Stated for the function and not for its values: with its arguments in place, checking the
equation would begin to compute the product. -/
theorem fraction_eq :
    fraction = fun positive word power left =>
      match (Magnitude.ofNat? word).bind fun m => scale 4 m power with
      | some m => .ok (.fraction (!positive) m, left)
      | none => stopAt .numberOutOfRange left := by
  delta fraction
  rfl

theorem readsAlike_fraction (positive : Bool) (word : Nat) (power : Int) :
    ReadsAlike (fraction positive word power) [] := by
  simp only [ReadsAlike, fraction_eq, List.nil_append]
  cases (Magnitude.ofNat? word).bind fun m => scale 4 m power with
  | none => exact ⟨none, fun rest _ => .outOfRange rest⟩
  | some m => exact ⟨some (.fraction (!positive) m), fun rest _ => .number _⟩

/-! ## Where the parts of a number end -/

theorem IsPower.head_append
    {power rest : List Char} (hpower : IsPower power) (hrest : StopsAt isNumberPart rest)
    {c : Char} (hc : (power ++ rest).head? = some c) : isAsciiDigit c = false ∧ c ≠ '.' := by
  cases hpower with
  | none =>
      obtain ⟨hdigit, hpoint, -⟩ := isAsciiDigit_of_not_isNumberPart (hrest c hc)
      exact ⟨hdigit, hpoint⟩
  | behindMark hmark =>
      obtain rfl := Option.some.inj hc
      rcases hmark with rfl | rfl <;> decide

theorem IsPower.stopsAt
    {power rest : List Char} (hpower : IsPower power) (hrest : StopsAt isNumberPart rest) :
    StopsAt isAsciiDigit (power ++ rest) :=
  fun _ hc => (hpower.head_append hrest hc).1

theorem IsDecimals.stopsAt
    {decimals rest : List Char} (hdecimals : IsDecimals decimals)
    (hrest : StopsAt isAsciiDigit rest) : StopsAt isAsciiDigit (decimals ++ rest) := by
  cases hdecimals with
  | none => exact hrest
  | behindPoint => exact stopsAt_cons (by decide) _

section Steps

variable {positive raised : Bool} {word places power : Nat} {start : Int}
  {c sign : Char} {text rest : List Char}

theorem powerDigits_of_stopsAt (htext : StopsAt isAsciiDigit text) :
    powerDigits positive word start raised power text =
      fraction positive word (if raised then start + power else start - power) text := by
  cases text with
  | nil => simp only [powerDigits]
  | cons c text => simp only [powerDigits, htext c rfl, Bool.false_eq_true, if_false]

theorem power_of_sign
    (hsign : sign = '+' ∧ raised = true ∨ sign = '-' ∧ raised = false)
    (hc : isAsciiDigit c = true) :
    JsonReader.power positive word start (sign :: c :: text) =
      powerDigits positive word start raised (digitValue c) text := by
  rcases hsign with ⟨rfl, rfl⟩ | ⟨rfl, rfl⟩ <;> simp only [JsonReader.power, hc, if_true]

theorem power_of_digit (hc : isAsciiDigit c = true) :
    JsonReader.power positive word start (c :: text) =
      powerDigits positive word start true (digitValue c) text := by
  have hplus : c ≠ '+' := ne_of_isAsciiDigit hc (by decide)
  have hminus : c ≠ '-' := ne_of_isAsciiDigit hc (by decide)
  simp [JsonReader.power, hc, hplus, hminus]

theorem afterFraction_of_stopsAt (hrest : StopsAt isNumberPart rest) :
    afterFraction positive word start rest = fraction positive word start rest := by
  cases rest with
  | nil => simp only [afterFraction]
  | cons c rest =>
      obtain ⟨-, -, hsmall, hlarge⟩ := isAsciiDigit_of_not_isNumberPart (hrest c rfl)
      simp only [afterFraction, hsmall, hlarge, or_self, if_false]

theorem decimals_of_stopsAt (hplaces : places ≠ 0) (htext : StopsAt isAsciiDigit text) :
    decimals positive start word places text =
      afterFraction positive word (start - places) text := by
  cases text with
  | nil => simp only [decimals, hplaces, if_false]
  | cons c text => simp only [decimals, htext c rfl, hplaces, Bool.false_eq_true, if_false]

theorem longNumber_of_power
    {power : List Char} (hpower : IsPower power) (hrest : StopsAt isNumberPart rest) :
    longNumber positive word places (power ++ rest) =
      afterFraction positive word places (power ++ rest) := by
  cases htext : power ++ rest with
  | nil => simp only [longNumber]
  | cons c text =>
      obtain ⟨hdigit, hpoint⟩ := hpower.head_append hrest (by rw [htext]; rfl)
      simp only [longNumber, hdigit, hpoint, Bool.false_eq_true, if_false]

theorem afterWhole_of_stopsAt (hrest : StopsAt isNumberPart rest) :
    afterWhole positive word rest = whole positive word rest := by
  cases rest with
  | nil => simp only [afterWhole]
  | cons c rest =>
      obtain ⟨-, hpoint, hsmall, hlarge⟩ := isAsciiDigit_of_not_isNumberPart (hrest c rfl)
      simp only [afterWhole, hpoint, hsmall, hlarge, or_self, if_false]

theorem wholeDigits_of_stopsAt (htext : StopsAt isAsciiDigit text) :
    wholeDigits positive word text = afterWhole positive word text := by
  cases text with
  | nil => simp only [wholeDigits]
  | cons c text => simp only [wholeDigits, htext c rfl, Bool.false_eq_true, if_false]

theorem number_of_zero (htext : StopsAt isAsciiDigit text) :
    number positive ('0' :: text) = afterWhole positive 0 text := by
  cases text with
  | nil => rfl
  | cons c text => simp only [number, htext c rfl, Bool.false_eq_true, if_false]

theorem number_of_digit (hc : isAsciiDigit c = true) (hzero : c ≠ '0') :
    number positive (c :: text) = wholeDigits positive (digitValue c) text := by
  unfold number
  split
  next heq => cases heq
  next heq => exact absurd (List.cons.inj heq).1 hzero
  next heq =>
    obtain ⟨rfl, rfl⟩ := List.cons.inj heq
    rw [if_pos hc]

end Steps

/-! ## Part by part -/

section Parts

variable (positive raised : Bool) (word places power : Nat) (start : Int)

theorem readsAlike_powerDigits
    {digits : List Char} (hdigits : ∀ c ∈ digits, isAsciiDigit c = true) :
    ReadsAlike (powerDigits positive word start raised power) digits := by
  induction digits generalizing power with
  | nil =>
      apply (readsAlike_fraction positive word
        (if raised then start + power else start - power)).of_eq
      intro rest hrest
      exact powerDigits_of_stopsAt (stopsAt_isAsciiDigit hrest)
  | cons c digits ih =>
      obtain ⟨hc, hdigits⟩ := List.forall_mem_cons.mp hdigits
      by_cases hfits : power * 10 + digitValue c < powerLimit
      · apply (ih (power * 10 + digitValue c) hdigits).of_eq
        intro rest _
        simp only [List.cons_append, powerDigits, hc, hfits, if_true]
      · by_cases hlarge : word ≠ 0 ∧ raised = true
        · refine ⟨none, ?_⟩
          intro rest _
          simp only [List.cons_append, powerDigits, hc, hfits, if_true, if_false]
          rw [if_pos hlarge]
          exact .outOfRange _
        · apply (readsAlike_ok (.fraction (!positive) .zero)).of_eq
          intro rest hrest
          have hskip : skipDigits (digits ++ rest) = rest :=
            dropWhile_append_of_stopsAt hdigits (stopsAt_isAsciiDigit hrest)
          simp only [List.cons_append, powerDigits, hc, hfits, if_true, if_false]
          rw [if_neg hlarge, hskip, List.nil_append]

theorem readsAlike_power
    {sign digits : List Char} (hsign : sign = [] ∨ sign = ['+'] ∨ sign = ['-'])
    (hdigits : IsNumeral digits) :
    ReadsAlike (JsonReader.power positive word start) (sign ++ digits) := by
  obtain ⟨hne, hdigits⟩ := hdigits
  cases digits with
  | nil => exact absurd rfl hne
  | cons c digits =>
      obtain ⟨hc, hdigits⟩ := List.forall_mem_cons.mp hdigits
      have hread (raised : Bool) :=
        readsAlike_powerDigits positive raised word (digitValue c) start hdigits
      rcases hsign with rfl | rfl | rfl
      · exact (hread true).of_eq fun _ _ => power_of_digit hc
      · exact (hread true).of_eq fun _ _ => power_of_sign (.inl ⟨rfl, rfl⟩) hc
      · exact (hread false).of_eq fun _ _ => power_of_sign (.inr ⟨rfl, rfl⟩) hc

theorem readsAlike_afterFraction {power : List Char} (hpower : IsPower power) :
    ReadsAlike (afterFraction positive word start) power := by
  cases hpower with
  | none =>
      apply (readsAlike_fraction positive word start).of_eq
      intro rest hrest
      exact afterFraction_of_stopsAt hrest
  | behindMark hmark hsign hdigits =>
      apply (readsAlike_power positive word start hsign hdigits).of_eq
      intro rest _
      simp only [List.cons_append, afterFraction, if_pos hmark]

theorem readsAlike_decimals
    {digits power : List Char}
    (hdigits : ∀ c ∈ digits, isAsciiDigit c = true) (hsome : places ≠ 0 ∨ digits ≠ [])
    (hpower : IsPower power) :
    ReadsAlike (decimals positive start word places) (digits ++ power) := by
  induction digits generalizing word places with
  | nil =>
      have hplaces : places ≠ 0 := by simpa using hsome
      apply (readsAlike_afterFraction positive word (start - places) hpower).of_eq
      intro rest hrest
      exact decimals_of_stopsAt hplaces (hpower.stopsAt hrest)
  | cons c digits ih =>
      have hall := hdigits
      obtain ⟨hc, hdigits⟩ := List.forall_mem_cons.mp hdigits
      by_cases hfits : word * 10 + digitValue c < wordLimit
      · apply (ih (word * 10 + digitValue c) (places + 1) hdigits
          (.inl (Nat.succ_ne_zero places))).of_eq
        intro rest _
        simp only [List.cons_append, decimals, hc, hfits, if_true]
      · apply (readsAlike_afterFraction positive word (start - places) hpower).of_eq
        intro rest hrest
        have hskip : skipDigits (c :: (digits ++ (power ++ rest))) = power ++ rest :=
          dropWhile_append_of_stopsAt hall (hpower.stopsAt hrest)
        simp only [List.cons_append, List.append_assoc, decimals, hc, hfits, hskip, if_true,
          if_false]

theorem readsAlike_longNumber
    {digits decimals power : List Char}
    (hdigits : ∀ c ∈ digits, isAsciiDigit c = true) (hdecimals : IsDecimals decimals)
    (hpower : IsPower power) :
    ReadsAlike (longNumber positive word places) (digits ++ (decimals ++ power)) := by
  induction digits generalizing places with
  | nil =>
      cases hdecimals with
      | none =>
          apply (readsAlike_afterFraction positive word places hpower).of_eq
          intro rest hrest
          exact longNumber_of_power hpower hrest
      | @behindPoint digits hmore =>
          apply (readsAlike_decimals positive word 0 places hmore.2 (.inr hmore.1) hpower).of_eq
          intro rest _
          have hpoint : isAsciiDigit '.' = false := by decide
          simp only [List.nil_append, List.cons_append, longNumber, hpoint, Bool.false_eq_true,
            if_false, if_true]
  | cons c digits ih =>
      obtain ⟨hc, hdigits⟩ := List.forall_mem_cons.mp hdigits
      apply (ih (places + 1) hdigits).of_eq
      intro rest _
      simp only [List.cons_append, longNumber, hc, if_true]

theorem readsAlike_whole : ReadsAlike (whole positive word) [] := by
  cases positive with
  | true => exact readsAlike_ok (.natural word)
  | false =>
      by_cases hfits : 0 < word ∧ word ≤ Nat.pow 2 63
      · apply (readsAlike_ok (.negative word)).of_eq
        intro rest _
        simp only [whole, hfits, Bool.false_eq_true, if_false, and_self, if_true]
      · apply (readsAlike_fraction false word 0).of_eq
        intro rest _
        simp only [whole, Bool.false_eq_true, if_false, if_neg hfits]

theorem readsAlike_afterWhole
    {decimals power : List Char} (hdecimals : IsDecimals decimals) (hpower : IsPower power) :
    ReadsAlike (afterWhole positive word) (decimals ++ power) := by
  cases hdecimals with
  | behindPoint hmore =>
      apply (readsAlike_decimals positive word 0 0 hmore.2 (.inr hmore.1) hpower).of_eq
      intro rest _
      simp only [List.cons_append, afterWhole, if_true]
  | none =>
      cases hpower with
      | none =>
          apply (readsAlike_whole positive word).of_eq
          intro rest hrest
          exact afterWhole_of_stopsAt hrest
      | @behindMark mark sign digits hmark hsign hdigits =>
          apply (readsAlike_power positive word 0 hsign hdigits).of_eq
          intro rest _
          have hpoint : mark ≠ '.' := by
            intro hsame
            rw [hsame] at hmark
            revert hmark
            decide
          simp only [List.nil_append, List.cons_append, afterWhole, hpoint, hmark, if_true,
            if_false]

theorem readsAlike_wholeDigits
    {digits decimals power : List Char}
    (hdigits : ∀ c ∈ digits, isAsciiDigit c = true) (hdecimals : IsDecimals decimals)
    (hpower : IsPower power) :
    ReadsAlike (wholeDigits positive word) (digits ++ (decimals ++ power)) := by
  have hall := hdigits
  induction digits generalizing word with
  | nil =>
      apply (readsAlike_afterWhole positive word hdecimals hpower).of_eq
      intro rest hrest
      have hstops := hdecimals.stopsAt (hpower.stopsAt hrest)
      rw [List.nil_append, List.append_assoc, wholeDigits_of_stopsAt hstops]
  | cons c digits ih =>
      obtain ⟨hc, hdigits⟩ := List.forall_mem_cons.mp hdigits
      by_cases hfits : word * 10 + digitValue c < wordLimit
      · apply (ih (word * 10 + digitValue c) hdigits hdigits).of_eq
        intro rest _
        simp only [List.cons_append, wholeDigits, hc, hfits, if_true]
      · apply (readsAlike_longNumber positive word 0 hall hdecimals hpower).of_eq
        intro rest _
        simp only [List.cons_append, wholeDigits, hc, hfits, if_true, if_false]

end Parts

/-- A number is read alike whatever follows it, or is out of range whatever follows it. -/
theorem readsAlike_number
    (positive : Bool) {text : List Char} (htext : IsUnsigned text) :
    ReadsAlike (number positive) text := by
  obtain @⟨whole, decimals, power, hwhole, hdecimals, hpower⟩ := htext
  obtain ⟨hne, hall⟩ := hwhole.numeral
  cases whole with
  | nil => exact absurd rfl hne
  | cons c digits =>
      obtain ⟨hc, hdigits⟩ := List.forall_mem_cons.mp hall
      by_cases hzero : c = '0'
      · obtain rfl := hzero
        obtain rfl : digits = [] := (List.cons.inj (hwhole.zero rfl)).2
        apply (readsAlike_afterWhole positive 0 hdecimals hpower).of_eq
        intro rest hrest
        simp only [List.cons_append, List.nil_append, List.append_assoc]
        exact number_of_zero (hdecimals.stopsAt (hpower.stopsAt hrest))
      · apply (readsAlike_wholeDigits positive (digitValue c) hdigits hdecimals hpower).of_eq
        intro rest _
        exact number_of_digit hc hzero

/-! ## Numbers alone and in front of other text -/

variable {positive : Bool} {text rest : List Char} {n : JsonNumber}

theorem Ends.eq_ok_iff
    {result : Option JsonNumber} {reading : Reading JsonNumber}
    (hends : Ends rest result reading) : reading = .ok (n, rest) ↔ result = some n := by
  cases hends with
  | number m => simp
  | outOfRange left => simp [stopAt]

/-- What a number is read as does not depend on the text behind it. -/
theorem number_append_iff (htext : IsUnsigned text) (hrest : StopsAt isNumberPart rest) :
    number positive (text ++ rest) = .ok (n, rest) ↔ number positive text = .ok (n, []) := by
  obtain ⟨result, hends⟩ := readsAlike_number positive htext
  have halone := hends [] (stopsAt_nil _)
  rw [List.append_nil] at halone
  rw [(hends rest hrest).eq_ok_iff, halone.eq_ok_iff]

/-- The only fault that a number can have is to be out of range. -/
theorem number_ok_or_outOfRange (positive : Bool) (htext : IsUnsigned text) :
    (∃ n, number positive text = .ok (n, [])) ∨
      ∃ left, number positive text = stopAt .numberOutOfRange left := by
  obtain ⟨result, hends⟩ := readsAlike_number positive htext
  have halone := hends [] (stopsAt_nil _)
  rw [List.append_nil] at halone
  generalize number positive text = reading at halone ⊢
  cases halone with
  | number n => exact .inl ⟨n, rfl⟩
  | outOfRange left => exact .inr ⟨left, rfl⟩

/-! ## Digits that fit -/

section Gathered

variable {raised : Bool} {word places power : Nat} {start : Int} {digits : List Char}

theorem lt_of_numeralFrom_cons
    {limit : Nat} {c : Char} (hc : isAsciiDigit c = true)
    (hfits : numeralFrom 10 word (c :: digits) < limit) : word * 10 + digitValue c < limit := by
  rw [numeralFrom_cons hc] at hfits
  exact Nat.lt_of_le_of_lt (le_numeralFrom _ digits) hfits

theorem wholeDigits_append
    (hdigits : ∀ c ∈ digits, isAsciiDigit c = true)
    (hfits : numeralFrom 10 word digits < wordLimit) (hrest : StopsAt isAsciiDigit rest) :
    wholeDigits positive word (digits ++ rest) =
      afterWhole positive (numeralFrom 10 word digits) rest := by
  induction digits generalizing word with
  | nil => exact wholeDigits_of_stopsAt hrest
  | cons c digits ih =>
      obtain ⟨hc, hdigits⟩ := List.forall_mem_cons.mp hdigits
      have hnext := lt_of_numeralFrom_cons hc hfits
      rw [numeralFrom_cons hc] at hfits ⊢
      simp only [List.cons_append, wholeDigits, hc, hnext, if_true]
      exact ih hdigits hfits

/-- Digits before the point that fit the word are all gathered in it. -/
theorem number_append_of_isWhole
    (htext : IsWhole text) (hfits : numeral 10 text < wordLimit)
    (hrest : StopsAt isAsciiDigit rest) :
    number positive (text ++ rest) = afterWhole positive (numeral 10 text) rest := by
  obtain ⟨hne, hall⟩ := htext.numeral
  cases text with
  | nil => exact absurd rfl hne
  | cons c digits =>
      obtain ⟨hc, hdigits⟩ := List.forall_mem_cons.mp hall
      by_cases hzero : c = '0'
      · obtain rfl := hzero
        obtain rfl : digits = [] := (List.cons.inj (htext.zero rfl)).2
        exact number_of_zero hrest
      · have hvalue : numeral 10 (c :: digits) = numeralFrom 10 (digitValue c) digits := by
          rw [numeral, numeralFrom_cons hc, Nat.zero_mul, Nat.zero_add]
        rw [hvalue] at hfits ⊢
        rw [List.cons_append, number_of_digit hc hzero]
        exact wholeDigits_append hdigits hfits hrest

/-- A whole number of sixty-four bits is read as it stands. -/
theorem number_of_isWhole (htext : IsWhole text) (hfits : numeral 10 text < wordLimit) :
    number positive text = whole positive (numeral 10 text) [] := by
  have hread : number positive (text ++ []) = afterWhole positive (numeral 10 text) [] :=
    number_append_of_isWhole htext hfits (stopsAt_nil _)
  rwa [List.append_nil, afterWhole_of_stopsAt (stopsAt_nil _)] at hread

/-- Decimals that fit the word are gathered in it, and each of them moves the point. -/
theorem decimals_append
    (hdigits : ∀ c ∈ digits, isAsciiDigit c = true) (hsome : places ≠ 0 ∨ digits ≠ [])
    (hfits : numeralFrom 10 word digits < wordLimit) (hrest : StopsAt isAsciiDigit rest) :
    decimals positive start word places (digits ++ rest) =
      afterFraction positive (numeralFrom 10 word digits)
        (start - (places + digits.length : Nat)) rest := by
  induction digits generalizing word places with
  | nil =>
      have hplaces : places ≠ 0 := by simpa using hsome
      exact decimals_of_stopsAt hplaces hrest
  | cons c digits ih =>
      obtain ⟨hc, hdigits⟩ := List.forall_mem_cons.mp hdigits
      have hnext := lt_of_numeralFrom_cons hc hfits
      rw [numeralFrom_cons hc] at hfits ⊢
      have hlength : places + 1 + digits.length = places + (c :: digits).length := by
        rw [List.length_cons]
        omega
      simp only [List.cons_append, decimals, hc, hnext, if_true]
      rw [ih hdigits (.inl (Nat.succ_ne_zero places)) hfits, hlength]

/-- The digits of a power of ten below the limit are all read. -/
theorem powerDigits_of_lt
    (hdigits : ∀ c ∈ digits, isAsciiDigit c = true)
    (hfits : numeralFrom 10 power digits < powerLimit) :
    powerDigits positive word start raised power digits =
      fraction positive word
        (if raised then start + numeralFrom 10 power digits
          else start - numeralFrom 10 power digits) [] := by
  induction digits generalizing power with
  | nil => exact powerDigits_of_stopsAt (stopsAt_nil _)
  | cons c digits ih =>
      obtain ⟨hc, hdigits⟩ := List.forall_mem_cons.mp hdigits
      have hnext := lt_of_numeralFrom_cons hc hfits
      rw [numeralFrom_cons hc] at hfits ⊢
      simp only [powerDigits, hc, hnext, if_true]
      exact ih hdigits hfits

end Gathered

/-- The text writes the number, with its sign. -/
inductive WritesNumber (n : JsonNumber) : List Char → Prop
  | unsigned {text : List Char} (htext : IsUnsigned text)
      (hread : number true text = .ok (n, [])) : WritesNumber n text
  | signed {text : List Char} (htext : IsUnsigned text)
      (hread : number false text = .ok (n, [])) : WritesNumber n ('-' :: text)

end CardReboot.JsonReader
