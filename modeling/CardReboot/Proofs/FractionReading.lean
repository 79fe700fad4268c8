import CardReboot.Proofs.JsonWriting
import CardReboot.Proofs.ShortestDecimal

/-!
# Fractions that are read again

A fraction is written as its shortest decimal.  The reader gathers the digits of that decimal
in a word and multiplies or divides the word by a power of ten, and it rounds after each of
these two steps.  So what is read differs from the fraction by these roundings only.
-/

namespace CardReboot

open Text JsonReader

/-! ## The word and the power -/

namespace JsonReader

variable {positive : Bool} {word : Nat} {start : Int} {whole digits rest : List Char}

/-- The digits on both sides of the point are gathered in the word. -/
theorem number_append_decimals
    (hwhole : IsWhole whole) (hdigits : IsNumeral digits)
    (hfits : numeral 10 (whole ++ digits) < wordLimit) (hrest : StopsAt isAsciiDigit rest) :
    number positive (whole ++ '.' :: (digits ++ rest)) =
      afterFraction positive (numeral 10 (whole ++ digits)) (-digits.length) rest := by
  rw [numeral_append] at hfits ⊢
  have hword : numeral 10 whole < wordLimit := Nat.lt_of_le_of_lt (le_numeralFrom _ _) hfits
  have hpoint : StopsAt isAsciiDigit ('.' :: (digits ++ rest)) := stopsAt_cons (by decide) _
  have hplaces : (0 - (0 + digits.length : Nat) : Int) = -digits.length := by omega
  rw [number_append_of_isWhole hwhole hword hpoint, afterWhole, if_pos rfl,
    decimals_append hdigits.2 (.inr hdigits.1) hfits hrest, hplaces]

/-- A power of ten with its sign is added to the places that the point was moved. -/
theorem power_toDigits {exponent : Int} (hfits : exponent.natAbs < powerLimit) :
    power positive word start
        ((if exponent < 0 then '-' else '+') :: Nat.toDigits 10 exponent.natAbs) =
      fraction positive word (start + exponent) [] := by
  have hvalue : numeral 10 (Nat.toDigits 10 exponent.natAbs) = exponent.natAbs :=
    (numeral_toDigits (by decide) (by decide) _).1
  obtain ⟨hne, hall⟩ := (isWhole_toDigits exponent.natAbs).numeral
  cases htext : Nat.toDigits 10 exponent.natAbs with
  | nil => exact absurd htext hne
  | cons c digits =>
      rw [htext] at hall hvalue
      obtain ⟨hc, hdigits⟩ := List.forall_mem_cons.mp hall
      rw [numeral, numeralFrom_cons hc, Nat.zero_mul, Nat.zero_add] at hvalue
      rw [← hvalue] at hfits
      by_cases hnegative : exponent < 0
      · have hsum : start - (exponent.natAbs : Int) = start + exponent := by omega
        rw [if_pos hnegative, power_of_sign (.inr ⟨rfl, rfl⟩) hc, powerDigits_of_lt hdigits hfits,
          hvalue, if_neg (by decide), hsum]
      · have hsum : start + (exponent.natAbs : Int) = start + exponent := by omega
        rw [if_neg hnegative, power_of_sign (.inl ⟨rfl, rfl⟩) hc, powerDigits_of_lt hdigits hfits,
          hvalue, if_pos rfl, hsum]

/-- The text is read as the word times the power of ten, with either sign. -/
def Gathers (text : List Char) (word : Nat) (power : Int) : Prop :=
  ∀ positive, number positive text = fraction positive word power []

end JsonReader

/-! ## The texts of decimals -/

namespace Decimal

theorem value_shifted (digits zeros : Nat) (exponent : Int) :
    value ⟨digits, exponent + zeros⟩ = value ⟨Nat.pow 10 zeros * digits, exponent⟩ := by
  have hten : (10 : ℚ) ≠ 0 := by norm_num
  simp only [value, Nat.pow_eq, Nat.cast_mul, Nat.cast_pow, Nat.cast_ofNat, zpow_add₀ hten,
    zpow_natCast]
  ring

theorem value_normalized (d : Decimal) : d.normalized.value = d.value := by
  by_cases hzero : d.digits = 0
  · simp [normalized, value, hzero]
  · obtain ⟨k, hk⟩ := pow_trailing_zeros_dvd d.digits
    have hpositive :
        0 < Nat.pow 10 ((Nat.toDigits 10 d.digits).reverse.takeWhile (· == '0')).length :=
      Nat.pow_pos (by decide)
    have hquotient := Nat.div_eq_of_eq_mul_right hpositive hk
    simp only [normalized, hzero, if_false, Nat.toList_repr, hquotient]
    rw [value_shifted, ← hk]

theorem gathers_positional_of_nonneg
    {d : Decimal} (hexponent : 0 ≤ d.exponent) (hzero : d.digits = 0 → d.exponent = 0)
    (hfits : d.digits * Nat.pow 10 d.exponent.toNat * 10 < wordLimit) :
    Gathers d.positional.toList (d.digits * Nat.pow 10 d.exponent.toNat * 10) (-1) := by
  intro positive
  have htext : d.positional.toList =
      (Nat.toDigits 10 d.digits ++ List.replicate d.exponent.toNat '0') ++
        '.' :: (['0'] ++ []) := by
    simp [positional, hexponent, zeros]
  have hwhole : IsWhole (Nat.toDigits 10 d.digits ++ List.replicate d.exponent.toNat '0') := by
    apply isWhole_shifted
    intro hdigits
    rw [hzero hdigits]
    rfl
  have hnumeral : IsNumeral ['0'] :=
    ⟨List.cons_ne_nil _ _, List.forall_mem_singleton.mpr (by decide)⟩
  have hword : numeral 10
      ((Nat.toDigits 10 d.digits ++ List.replicate d.exponent.toNat '0') ++ ['0']) =
        d.digits * Nat.pow 10 d.exponent.toNat * 10 := by
    rw [numeral_append, numeral_shifted]
    rfl
  rw [← hword] at hfits ⊢
  rw [htext, number_append_decimals hwhole hnumeral hfits (stopsAt_nil _),
    afterFraction_of_stopsAt (stopsAt_nil _)]
  rfl

theorem gathers_positional_of_neg
    {d : Decimal} (hexponent : ¬ 0 ≤ d.exponent) (hfits : d.digits < wordLimit) :
    Gathers d.positional.toList d.digits d.exponent := by
  intro positive
  have hplaces : 0 < (-d.exponent).toNat := by omega
  obtain ⟨padded, hpadded⟩ : ∃ padded : List Char, padded =
      List.replicate ((-d.exponent).toNat + 1 - (Nat.toDigits 10 d.digits).length) '0' ++
        Nat.toDigits 10 d.digits := ⟨_, rfl⟩
  obtain ⟨hwhole, hdecimals⟩ := isWhole_padded hplaces hpadded
  have htext : d.positional.toList =
      padded.take (padded.length - (-d.exponent).toNat) ++
        '.' :: (padded.drop (padded.length - (-d.exponent).toNat) ++ []) := by
    simp [hpadded, positional, hexponent, zeros, length_repr]
  have hvalue : numeral 10 padded = d.digits := by
    rw [hpadded, numeral_zeros]
    exact (numeral_toDigits (by decide) (by decide) _).1
  have hlong : (-d.exponent).toNat ≤ padded.length := by
    rw [hpadded, List.length_append, List.length_replicate]
    omega
  have hmoved :
      (-(padded.drop (padded.length - (-d.exponent).toNat)).length : Int) = d.exponent := by
    rw [List.length_drop]
    omega
  rw [← List.take_append_drop (padded.length - (-d.exponent).toNat) padded] at hvalue
  rw [htext, number_append_decimals hwhole hdecimals (by rwa [hvalue]) (stopsAt_nil _), hvalue,
    hmoved, afterFraction_of_stopsAt (stopsAt_nil _)]

theorem gathers_scientific
    {d : Decimal} {power : Int} (hfits : d.digits < wordLimit) (hpower : power.natAbs < powerLimit)
    (hexponent : d.exponent = power - ((Nat.toDigits 10 d.digits).length - 1)) :
    Gathers (d.scientific power).toList d.digits d.exponent := by
  intro positive
  have hvalue : numeral 10 (Nat.toDigits 10 d.digits) = d.digits :=
    (numeral_toDigits (by decide) (by decide) _).1
  obtain ⟨hne, hall⟩ := (isWhole_toDigits d.digits).numeral
  have hmark : StopsAt isAsciiDigit
      ('e' :: (if power < 0 then '-' else '+') :: Nat.toDigits 10 power.natAbs) :=
    stopsAt_cons (by decide) _
  have hsign : (if power < 0 then "e-" else "e+").toList =
      ['e', if power < 0 then '-' else '+'] := by
    split <;> rfl
  cases hdigits : Nat.toDigits 10 d.digits with
  | nil => exact absurd hdigits hne
  | cons digit rest =>
      rw [hdigits] at hall hvalue hexponent
      obtain ⟨hdigit, hrest⟩ := List.forall_mem_cons.mp hall
      have hwhole := isWhole_digit hdigit
      cases rest with
      | nil =>
          have htext : (d.scientific power).toList = [digit] ++
              'e' :: (if power < 0 then '-' else '+') :: Nat.toDigits 10 power.natAbs := by
            simp [scientific, hdigits, hsign]
          have hzero : d.exponent = 0 + power := by simpa using hexponent
          rw [htext, number_append_of_isWhole hwhole (by rwa [hvalue]) hmark, hvalue, hzero,
            ← power_toDigits hpower]
          rfl
      | cons second rest =>
          have htext : (d.scientific power).toList = [digit] ++ '.' :: ((second :: rest) ++
              'e' :: (if power < 0 then '-' else '+') :: Nat.toDigits 10 power.natAbs) := by
            simp [scientific, hdigits, hsign]
          have hsum : d.exponent = -(second :: rest).length + power := by
            rw [hexponent]
            simp
            omega
          have hnumeral : IsNumeral (second :: rest) := ⟨List.cons_ne_nil _ _, hrest⟩
          have hword : numeral 10 ([digit] ++ second :: rest) = d.digits := hvalue
          rw [htext, number_append_decimals hwhole hnumeral (by rwa [hword]) hmark, hword, hsum,
            ← power_toDigits hpower]
          rfl

/-- The word and the power of ten that are gathered from the text of the decimal. -/
def gathered (d : Decimal) : Decimal :=
  let d := d.normalized
  let power := d.exponent + d.digits.repr.length - 1
  if (pointRange.least ≤ power ∧ power ≤ pointRange.most) ∧ 0 ≤ d.exponent then
    ⟨d.digits * Nat.pow 10 d.exponent.toNat * 10, -1⟩
  else d

/-- The word and the power of ten can be held by the reader. -/
structure FitsReader (d : Decimal) : Prop where
  digits : d.normalized.digits < wordLimit
  power : (d.normalized.exponent + (Nat.toDigits 10 d.normalized.digits).length - 1).natAbs <
    powerLimit

theorem value_gathered (d : Decimal) : d.gathered.value = d.value := by
  rw [← value_normalized d]
  unfold gathered
  simp only
  split
  next hpoint =>
    obtain ⟨count, hcount⟩ := Int.eq_ofNat_of_zero_le hpoint.2
    have hmoved : d.normalized.exponent = -1 + (count + 1 : Nat) := by omega
    have hcountNat : d.normalized.exponent.toNat = count := by omega
    have hdigits : d.normalized.digits * Nat.pow 10 count * 10 =
        Nat.pow 10 (count + 1) * d.normalized.digits := by
      rw [Nat.pow_eq, Nat.pow_eq, Nat.pow_succ]
      ring
    calc
      value ⟨d.normalized.digits * Nat.pow 10 d.normalized.exponent.toNat * 10, -1⟩
        = value ⟨Nat.pow 10 (count + 1) * d.normalized.digits, -1⟩ := by rw [hcountNat, hdigits]
      _ = value ⟨d.normalized.digits, -1 + (count + 1 : Nat)⟩ := (value_shifted _ _ _).symm
      _ = d.normalized.value := by rw [← hmoved]
  next => rfl

theorem lt_wordLimit_of_point
    {n : Nat} {exponent : Int}
    (hpoint : exponent + (Nat.toDigits 10 n).length - 1 ≤ pointRange.most)
    (hexponent : 0 ≤ exponent) : n * Nat.pow 10 exponent.toNat * 10 < wordLimit := by
  have hlength : n < 10 ^ (Nat.toDigits 10 n).length :=
    (Nat.length_toDigits_le_iff (by decide) Nat.length_toDigits_pos).mp (Nat.le_refl _)
  have hmost : (Nat.toDigits 10 n).length + exponent.toNat ≤ 16 := by
    simp only [pointRange] at hpoint
    omega
  have hsixteen : n * 10 ^ exponent.toNat < 10 ^ 16 := by
    calc
      n * 10 ^ exponent.toNat
        < 10 ^ (Nat.toDigits 10 n).length * 10 ^ exponent.toNat :=
          Nat.mul_lt_mul_of_pos_right hlength (Nat.pow_pos (by decide))
      _ = 10 ^ ((Nat.toDigits 10 n).length + exponent.toNat) := (Nat.pow_add 10 _ _).symm
      _ ≤ 10 ^ 16 := Nat.pow_le_pow_right (by decide) hmost
  have hword : 10 ^ 16 * 10 < wordLimit := by decide
  rw [Nat.pow_eq]
  omega

theorem gathers_text {d : Decimal} (hfits : d.FitsReader) :
    Gathers d.text.toList d.gathered.digits d.gathered.exponent := by
  have hpower := hfits.power
  unfold text gathered
  simp only [length_repr] at hpower ⊢
  by_cases hpoint : pointRange.least ≤
        d.normalized.exponent + (Nat.toDigits 10 d.normalized.digits).length - 1 ∧
      d.normalized.exponent + (Nat.toDigits 10 d.normalized.digits).length - 1 ≤ pointRange.most
  · rw [if_pos hpoint]
    by_cases hexponent : 0 ≤ d.normalized.exponent
    · rw [if_pos ⟨hpoint, hexponent⟩]
      exact gathers_positional_of_nonneg hexponent normalized_exponent
        (lt_wordLimit_of_point hpoint.2 hexponent)
    · rw [if_neg fun hboth => hexponent hboth.2]
      exact gathers_positional_of_neg hexponent hfits.digits
  · rw [if_neg hpoint, if_neg fun hboth => hpoint hboth.1]
    apply gathers_scientific hfits.digits hpower
    omega

end Decimal

/-! ## Reading back -/

/-- The decimals of normal magnitudes are far below the limits of the reader. -/
theorem Decimal.fitsReader {d : Decimal} (hdigits : d.digits ≤ 10 ^ 17)
    (hexponent : d.exponent.natAbs ≤ 417) : d.FitsReader := by
  have hlength (n : Nat) (hn : n ≤ 10 ^ 17) : (Nat.toDigits 10 n).length ≤ 18 :=
    (Nat.length_toDigits_le_iff (by decide) (by decide)).mpr (Nat.lt_of_le_of_lt hn (by decide))
  have hnormalized : d.normalized.digits ≤ 10 ^ 17 ∧ d.normalized.exponent.natAbs ≤ 435 := by
    by_cases hzero : d.digits = 0
    · simp [normalized, hzero]
    · have hzeros : ((Nat.toDigits 10 d.digits).reverse.takeWhile (· == '0')).length ≤ 18 := by
        have hprefix :=
          (List.takeWhile_prefix (· == '0') : _ <+: (Nat.toDigits 10 d.digits).reverse).length_le
        rw [List.length_reverse] at hprefix
        exact Nat.le_trans hprefix (hlength _ hdigits)
      simp only [normalized, hzero, if_false, Nat.toList_repr]
      exact ⟨Nat.le_trans (Nat.div_le_self _ _) hdigits, by omega⟩
  have hpower := hlength _ hnormalized.1
  constructor
  · exact Nat.lt_of_le_of_lt hnormalized.1 (by decide)
  · have hlimit : 1000 < powerLimit := by decide
    omega

namespace JsonNumber

/-- The word rounded to a magnitude, and that times the power of ten rounded again. -/
def readBack? (d : Decimal) : Option Magnitude :=
  (Magnitude.ofNat? d.digits).bind fun m => scale 4 m d.exponent

variable {x y : Magnitude}

theorem writesNumber_fraction
    (hx : x.IsNormal) (negative : Bool) (hread : readBack? x.shortest.gathered = some y) :
    WritesNumber (.fraction negative y) (fraction negative x).text.toList := by
  obtain ⟨-, hdigits, hexponent⟩ := Magnitude.shortest_spec hx
  have hgathers := Decimal.gathers_text (Decimal.fitsReader hdigits hexponent)
  have hnumber (positive : Bool) :
      number positive x.text.toList = .ok (.fraction (!positive) y, []) := by
    unfold readBack? at hread
    rw [Magnitude.text, hgathers, fraction_eq]
    simp only [hread]
  cases negative with
  | false => exact .unsigned x.isUnsigned_text (hnumber true)
  | true =>
      have htext : (fraction true x).text.toList = '-' :: x.text.toList := by
        simp [JsonNumber.text]
      rw [htext]
      exact .signed x.isUnsigned_text (hnumber false)

/-- A fraction is read back as its shortest decimal, rounded as the reader rounds it. -/
theorem reread_fraction
    (hx : x.IsNormal) (negative : Bool) (hread : readBack? x.shortest.gathered = some y) :
    (fraction negative x).reread = .fraction negative y :=
  reread_of_writes (writesNumber_fraction hx negative hread)

-- The word 10000000000000007 has more than fifty-three digits in base two.
example :
    (fraction false ⟨4503599627370499, 1022⟩).text = "1.0000000000000007" ∧
      (fraction false ⟨4503599627370499, 1022⟩).reread.text = "1.0000000000000009" := by
  decide +kernel

/-- A power of ten with few digits in base two is not rounded. -/
theorem scaled_powerOfTen {power : Nat} (hpower : power ≤ 22) :
    (powerOfTen power).scaled = Nat.pow 10 power * Magnitude.denominator := by
  have hsmall : Nat.pow 5 power < Magnitude.significandLimit :=
    Nat.lt_of_le_of_lt (Nat.pow_le_pow_right (by decide) hpower) (by decide)
  have hzeros : power ≤ 900 := by omega
  have hten : Nat.pow 5 power * Nat.pow 2 power = Nat.pow 10 power := (Nat.mul_pow 5 2 power).symm
  obtain ⟨m, hm, hscaled⟩ := Magnitude.exists_ofNat?_eq hsmall hzeros
  rw [hten] at hm hscaled
  rw [powerOfTen, hm, Option.getD_some, hscaled]

/-- A word with few digits, times such a power of ten, is rounded once. -/
theorem readBack?_of_holds
    {d : Decimal} (hx : x.IsNormal) (hdigits : d.digits < Magnitude.significandLimit)
    (hexponent : d.exponent.natAbs ≤ 22) (hholds : x.neighbourhood.Holds d.value) :
    readBack? d = some x := by
  have hpositive := Magnitude.denominator_pos
  have hdenominator : (Magnitude.denominator : ℚ) ≠ 0 := by
    exact_mod_cast Nat.ne_of_gt hpositive
  obtain ⟨m, hm, hword⟩ := Magnitude.exists_ofNat?_eq hdigits (Nat.zero_le 900)
  rw [Nat.pow_eq, Nat.pow_zero, Nat.mul_one] at hm hword
  have hnear : d.exponent.natAbs ≤ largestPower := Nat.le_trans hexponent (by decide)
  have hpower := scaled_powerOfTen hexponent
  rw [readBack?, hm, Option.bind_some, scale, if_pos hnear]
  by_cases hraised : 0 ≤ d.exponent
  · have hnat : d.exponent.toNat = d.exponent.natAbs := by omega
    have hint : d.exponent = (d.exponent.natAbs : Int) := by omega
    have hvalue : ((m.scaled * (powerOfTen d.exponent.natAbs).scaled : Nat) /
        (Magnitude.denominator * Magnitude.denominator : Nat) : ℚ) = d.value := by
      rw [hword, hpower, Decimal.value, Nat.pow_eq]
      nth_rewrite 2 [hint]
      rw [zpow_natCast]
      push_cast
      field_simp
    rw [if_pos hraised, hnat, Magnitude.multiply?,
      Magnitude.round?_eq_some_iff (Nat.mul_pos hpositive hpositive), hvalue]
    exact ⟨hx, hholds⟩
  · have hint : d.exponent = -(d.exponent.natAbs : Int) := by omega
    have hvalue : (m.scaled / (powerOfTen d.exponent.natAbs).scaled : ℚ) = d.value := by
      rw [hword, hpower, Decimal.value, Nat.pow_eq]
      nth_rewrite 2 [hint]
      rw [zpow_neg, zpow_natCast]
      push_cast
      field_simp
    have hdivisor : 0 < (powerOfTen d.exponent.natAbs).scaled := by
      rw [hpower]
      exact Nat.mul_pos (Nat.pow_pos (by decide)) hpositive
    rw [if_neg hraised, Magnitude.divide?, Magnitude.round?_eq_some_iff hdivisor, hvalue]
    exact ⟨hx, hholds⟩

/-- The number is read back as it is: a whole number of sixty-four bits, or a fraction whose
digits are few and not far from the point. -/
def IsKept : JsonNumber → Prop
  | fraction _ x => x.IsNormal ∧ x.shortest.gathered.digits < Nat.pow 2 53 ∧
      x.shortest.gathered.exponent.natAbs ≤ 22
  | n => n.FitsWord

theorem IsKept.writesNumber {n : JsonNumber} (hn : n.IsKept) :
    WritesNumber n n.text.toList := by
  cases n with
  | natural n => exact FitsWord.writesNumber hn
  | negative n => exact FitsWord.writesNumber hn
  | fraction negative x =>
      obtain ⟨hx, hdigits, hexponent⟩ := hn
      apply writesNumber_fraction hx negative
      apply readBack?_of_holds hx hdigits hexponent
      rw [Decimal.value_gathered]
      exact (Magnitude.shortest_spec hx).1

theorem IsKept.isInRange {n : JsonNumber} (hn : n.IsKept) : n.IsInRange :=
  isInRange_of_writes hn.writesNumber

theorem IsKept.reread_eq {n : JsonNumber} (hn : n.IsKept) : n.reread = n :=
  reread_of_writes hn.writesNumber

example :
    (fraction false ⟨7205759403792794, 1018⟩).text = "0.1" ∧
      (fraction false ⟨7205759403792794, 1018⟩).IsKept :=
  ⟨by decide +kernel, ⟨by decide, by decide, by decide⟩, by decide +kernel, by decide +kernel⟩

end JsonNumber

/-- Values of such numbers are read back as they are. -/
theorem Json.IsWithin.reread_eq_of_isKept
    {v : Json} {depth : Nat} (hv : v.IsWithin JsonNumber.IsKept depth) : v.reread = v :=
  hv.mapNumbers_eq fun _ hn => hn.reread_eq

end CardReboot
