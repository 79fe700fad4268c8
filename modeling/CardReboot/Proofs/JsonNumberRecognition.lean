import CardReboot.Proofs.JsonNumberReading

/-!
# What is read as a number

Where a number is read, a number is written: what the reader takes off a text has digits
before the point, perhaps decimals and perhaps a power of ten.  So a number is read exactly
where the format has one.
-/

namespace CardReboot.JsonReader

open Text

/-- If a number is read, what is taken off the text for it has the shape. -/
def TakesOff (shape : List Char → Prop) (text : List Char) (reading : Reading JsonNumber) :
    Prop :=
  ∀ n rest, reading = .ok (n, rest) → ∃ piece, text = piece ++ rest ∧ shape piece

section Shapes

variable {shape shape' : List Char → Prop} {text : List Char} {reading : Reading JsonNumber}

theorem takesOff_error (stop : JsonStop) : TakesOff shape text (.error stop) := nofun

theorem takesOff_ok (n : JsonNumber) {piece : List Char} (hpiece : shape piece)
    (rest : List Char) : TakesOff shape (piece ++ rest) (.ok (n, rest)) := by
  intro m left hread
  cases hread
  exact ⟨piece, rfl, hpiece⟩

theorem takesOff_nothing (n : JsonNumber) (text : List Char) :
    TakesOff (· = []) text (.ok (n, text)) := by
  intro m rest hread
  cases hread
  exact ⟨[], rfl, rfl⟩

theorem TakesOff.behind
    (htakes : TakesOff shape text reading) (front : List Char)
    (hshape : ∀ piece, shape piece → shape' (front ++ piece)) :
    TakesOff shape' (front ++ text) reading := by
  intro n rest hread
  obtain ⟨piece, rfl, hpiece⟩ := htakes n rest hread
  exact ⟨front ++ piece, (List.append_assoc front piece rest).symm, hshape piece hpiece⟩

theorem TakesOff.cons
    (htakes : TakesOff shape text reading) {c : Char}
    (hshape : ∀ piece, shape piece → shape' (c :: piece)) :
    TakesOff shape' (c :: text) reading :=
  htakes.behind [c] hshape

theorem TakesOff.mono
    (htakes : TakesOff shape text reading) (hshape : ∀ piece, shape piece → shape' piece) :
    TakesOff shape' text reading :=
  htakes.behind [] hshape

theorem TakesOff.of_nil (htakes : TakesOff (· = []) text reading) (hshape : shape []) :
    TakesOff shape text reading :=
  htakes.mono fun _ hpiece => hpiece ▸ hshape

end Shapes

/-! ## Digits and what follows them -/

def AllDigits (text : List Char) : Prop := ∀ c ∈ text, isAsciiDigit c = true

theorem allDigits_nil : AllDigits [] := List.forall_mem_nil _

theorem AllDigits.cons {c : Char} {text : List Char} (hc : isAsciiDigit c = true)
    (htext : AllDigits text) : AllDigits (c :: text) :=
  List.forall_mem_cons.mpr ⟨hc, htext⟩

theorem AllDigits.isNumeral_cons {c : Char} {text : List Char} (hc : isAsciiDigit c = true)
    (htext : AllDigits text) : IsNumeral (c :: text) :=
  ⟨List.cons_ne_nil c text, htext.cons hc⟩

theorem exists_digits_skipDigits (text : List Char) :
    ∃ digits, text = digits ++ skipDigits text ∧ AllDigits digits :=
  ⟨text.takeWhile isAsciiDigit, List.takeWhile_append_dropWhile.symm,
    List.all_eq_true.mp List.all_takeWhile⟩

/-- A sign, if there is one, and digits behind it. -/
def IsSignedNumeral (text : List Char) : Prop :=
  ∃ sign digits, text = sign ++ digits ∧ (sign = [] ∨ sign = ['+'] ∨ sign = ['-']) ∧
    IsNumeral digits

theorem IsSignedNumeral.isPower {text : List Char} (htext : IsSignedNumeral text) {mark : Char}
    (hmark : mark = 'e' ∨ mark = 'E') : IsPower (mark :: text) := by
  obtain ⟨sign, digits, rfl, hsign, hdigits⟩ := htext
  exact .behindMark hmark hsign hdigits

/-- Digits, one at least unless some were read before them, and perhaps a power of ten. -/
def EndsDecimals (places : Nat) (text : List Char) : Prop :=
  ∃ digits power, text = digits ++ power ∧ AllDigits digits ∧ (places = 0 → digits ≠ []) ∧
    IsPower power

theorem IsPower.endsDecimals {power : List Char} (hpower : IsPower power) {places : Nat}
    (hplaces : places ≠ 0) : EndsDecimals places power :=
  ⟨[], power, rfl, allDigits_nil, fun hnone => absurd hnone hplaces, hpower⟩

theorem IsPower.endsDecimals_append {power : List Char} (hpower : IsPower power) {c : Char}
    {digits : List Char} (hdigits : AllDigits (c :: digits)) (places : Nat) :
    EndsDecimals places ((c :: digits) ++ power) :=
  ⟨c :: digits, power, rfl, hdigits, fun _ => List.cons_ne_nil c digits, hpower⟩

theorem EndsDecimals.cons {places : Nat} {text : List Char} (htext : EndsDecimals places text)
    {c : Char} (hc : isAsciiDigit c = true) (places' : Nat) :
    EndsDecimals places' (c :: text) := by
  obtain ⟨digits, power, rfl, hdigits, -, hpower⟩ := htext
  exact hpower.endsDecimals_append (hdigits.cons hc) places'

/-- What may follow the digits before the point. -/
def EndsWhole (text : List Char) : Prop :=
  ∃ decimals power, text = decimals ++ power ∧ IsDecimals decimals ∧ IsPower power

theorem IsPower.endsWhole {power : List Char} (hpower : IsPower power) : EndsWhole power :=
  ⟨[], power, rfl, .none, hpower⟩

theorem EndsDecimals.endsWhole {text : List Char} (htext : EndsDecimals 0 text) :
    EndsWhole ('.' :: text) := by
  obtain ⟨digits, power, rfl, hdigits, hsome, hpower⟩ := htext
  exact ⟨'.' :: digits, power, rfl, .behindPoint ⟨hsome rfl, hdigits⟩, hpower⟩

/-- Digits and what may follow the last of them. -/
def EndsDigits (text : List Char) : Prop :=
  ∃ digits more, text = digits ++ more ∧ AllDigits digits ∧ EndsWhole more

theorem EndsWhole.endsDigits {text : List Char} (htext : EndsWhole text) : EndsDigits text :=
  ⟨[], text, rfl, allDigits_nil, htext⟩

theorem EndsDigits.cons {text : List Char} (htext : EndsDigits text) {c : Char}
    (hc : isAsciiDigit c = true) : EndsDigits (c :: text) := by
  obtain ⟨digits, more, rfl, hdigits, hmore⟩ := htext
  exact ⟨c :: digits, more, rfl, hdigits.cons hc, hmore⟩

/-! ## Part by part -/

section Parts

variable (positive raised : Bool) (word places power : Nat) (start : Int) (text : List Char)

theorem takesOff_fraction : TakesOff (· = []) text (fraction positive word start text) := by
  simp only [fraction_eq]
  split
  · exact takesOff_nothing _ text
  · exact takesOff_error _

theorem takesOff_powerDigits :
    TakesOff AllDigits text (powerDigits positive word start raised power text) := by
  induction text generalizing power with
  | nil =>
      rw [powerDigits]
      exact (takesOff_fraction _ _ _ _).of_nil allDigits_nil
  | cons c text ih =>
      rw [powerDigits]
      split
      next hc =>
        split
        · exact (ih _).cons fun _ => AllDigits.cons hc
        split
        · exact takesOff_error _
        · obtain ⟨digits, hsplit, hdigits⟩ := exists_digits_skipDigits text
          have htakes := takesOff_ok (.fraction (!positive) .zero) (hdigits.cons hc)
            (skipDigits text)
          rwa [List.cons_append, ← hsplit] at htakes
      next => exact (takesOff_fraction _ _ _ _).of_nil allDigits_nil

theorem takesOff_power :
    TakesOff IsSignedNumeral text (JsonReader.power positive word start text) := by
  unfold JsonReader.power
  split
  next raised digits hsplit =>
    have hsign : ∃ sign, text = sign ++ digits ∧
        (sign = [] ∨ sign = ['+'] ∨ sign = ['-']) := by
      split at hsplit <;> cases hsplit
      · exact ⟨['+'], rfl, .inr (.inl rfl)⟩
      · exact ⟨['-'], rfl, .inr (.inr rfl)⟩
      · exact ⟨[], rfl, .inl rfl⟩
    obtain ⟨sign, rfl, hsign⟩ := hsign
    split
    · exact takesOff_error _
    next c more =>
      split
      next hc =>
        have hdigits := takesOff_powerDigits positive raised word (digitValue c) start more
        have hnumeral := hdigits.cons fun _ => AllDigits.isNumeral_cons hc
        exact hnumeral.behind sign fun piece hpiece => ⟨sign, piece, rfl, hsign, hpiece⟩
      next => exact takesOff_error _

theorem takesOff_afterFraction :
    TakesOff IsPower text (afterFraction positive word start text) := by
  unfold afterFraction
  split
  next c more =>
    split
    next hmark => exact (takesOff_power _ _ _ _).cons fun _ hpiece => hpiece.isPower hmark
    next => exact (takesOff_fraction _ _ _ _).of_nil .none
  next => exact (takesOff_fraction _ _ _ _).of_nil .none

theorem takesOff_decimals :
    TakesOff (EndsDecimals places) text (decimals positive start word places text) := by
  induction text generalizing word places with
  | nil =>
      rw [decimals]
      split
      · exact takesOff_error _
      next hplaces =>
        exact (takesOff_afterFraction _ _ _ _).mono fun _ hpower => hpower.endsDecimals hplaces
  | cons c text ih =>
      rw [decimals]
      split
      next hc =>
        split
        next => exact (ih _ _).cons fun _ hpiece => hpiece.cons hc places
        next =>
          -- The digits that no longer fit the word are skipped, the first of them is this one.
          have hskip : skipDigits (c :: text) = skipDigits text := List.dropWhile_cons_of_pos hc
          obtain ⟨digits, hsplit, hdigits⟩ := exists_digits_skipDigits text
          have htakes := (takesOff_afterFraction positive word (start - places)
            (skipDigits text)).behind (c :: digits) fun _ hpower =>
              hpower.endsDecimals_append (hdigits.cons hc) places
          rw [List.cons_append, ← hsplit] at htakes
          rwa [hskip]
      next =>
        split
        · exact takesOff_error _
        next hplaces =>
          exact (takesOff_afterFraction _ _ _ _).mono fun _ hpower => hpower.endsDecimals hplaces

theorem takesOff_longNumber :
    TakesOff EndsDigits text (longNumber positive word places text) := by
  induction text generalizing places with
  | nil =>
      rw [longNumber]
      exact (takesOff_afterFraction _ _ _ _).mono fun _ hpower => hpower.endsWhole.endsDigits
  | cons c text ih =>
      rw [longNumber]
      split
      next hc => exact (ih _).cons fun _ hpiece => hpiece.cons hc
      split
      next hpoint =>
        obtain rfl := hpoint
        exact (takesOff_decimals _ _ _ _ _).cons fun _ hpiece => hpiece.endsWhole.endsDigits
      next =>
        exact (takesOff_afterFraction _ _ _ _).mono fun _ hpower => hpower.endsWhole.endsDigits

theorem takesOff_whole : TakesOff (· = []) text (whole positive word text) := by
  unfold whole
  split
  · exact takesOff_nothing _ text
  split
  · exact takesOff_nothing _ text
  · exact takesOff_fraction _ _ _ _

theorem takesOff_afterWhole : TakesOff EndsWhole text (afterWhole positive word text) := by
  have hnone : EndsWhole [] := IsPower.none.endsWhole
  unfold afterWhole
  split
  next c more =>
    split
    next hpoint =>
      obtain rfl := hpoint
      exact (takesOff_decimals _ _ _ _ _).cons fun _ hpiece => hpiece.endsWhole
    split
    next hmark =>
      exact (takesOff_power _ _ _ _).cons fun _ hpiece => (hpiece.isPower hmark).endsWhole
    next => exact (takesOff_whole _ _ _).of_nil hnone
  next => exact (takesOff_whole _ _ _).of_nil hnone

theorem takesOff_wholeDigits : TakesOff EndsDigits text (wholeDigits positive word text) := by
  induction text generalizing word with
  | nil =>
      rw [wholeDigits]
      exact (takesOff_afterWhole _ _ _).mono fun _ hpiece => hpiece.endsDigits
  | cons c text ih =>
      rw [wholeDigits]
      split
      next hc =>
        split
        · exact (ih _).cons fun _ hpiece => hpiece.cons hc
        · exact takesOff_longNumber _ _ _ _
      next => exact (takesOff_afterWhole _ _ _).mono fun _ hpiece => hpiece.endsDigits

theorem takesOff_number : TakesOff IsUnsigned text (number positive text) := by
  unfold number
  split
  · exact takesOff_error _
  next c more =>
    split
    · exact takesOff_error _
    · apply (takesOff_afterWhole _ _ _).cons
      intro piece hpiece
      obtain ⟨decimals, power, rfl, hdecimals, hpower⟩ := hpiece
      exact .parts (isWhole_digit rfl) hdecimals hpower
  next c more hnot =>
    split
    next hc =>
      intro n rest hread
      obtain ⟨_, rfl, digits, _, rfl, hdigits, decimals, power, rfl, hdecimals, hpower⟩ :=
        takesOff_wholeDigits _ _ _ n rest hread
      -- A zero at the start stands alone: with anything behind it the case before applies.
      have hzero : c = '0' → digits = [] := by
        intro hc
        cases digits with
        | nil => rfl
        | cons d digits => exact (hnot d _ hc rfl).elim
      have hwhole : IsWhole (c :: digits) := by
        refine ⟨hdigits.isNumeral_cons hc, ?_⟩
        intro hhead
        obtain rfl := Option.some.inj hhead
        rw [hzero rfl]
      exact ⟨c :: (digits ++ (decimals ++ power)), by simp, .parts hwhole hdecimals hpower⟩
    next => exact takesOff_error _

end Parts

/-- Where a number is read in front of other text, a number is written. -/
theorem exists_of_number_eq_ok
    {positive : Bool} {text rest : List Char} {n : JsonNumber}
    (hread : number positive text = .ok (n, rest)) (hrest : StopsAt isNumberPart rest) :
    ∃ piece, text = piece ++ rest ∧ IsUnsigned piece ∧ number positive piece = .ok (n, []) := by
  obtain ⟨piece, rfl, hpiece⟩ := takesOff_number positive text n rest hread
  exact ⟨piece, rfl, hpiece, (number_append_iff hpiece hrest).mp hread⟩

end CardReboot.JsonReader
