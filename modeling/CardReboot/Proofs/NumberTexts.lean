import CardReboot.Number.Notation
import CardReboot.Proofs.JsonNumberReading
import Mathlib.Data.List.Basic

/-!
# The texts of numbers

Every number is written as the format wants it: a natural number with its decimal digits, of
which the first is no zero unless it is the only one, and a magnitude with a point among its
digits or with a power of ten behind them.
-/

namespace CardReboot

open Text JsonReader

/-! ## Digits -/

theorem hexValue?_digitChar {d : Nat} (hd : d < 16) : hexValue? d.digitChar = some d := by
  revert d
  decide

/-- The digits of a number in a base up to sixteen write the number. -/
theorem numeral_toDigits {base : Nat} (hlow : 1 < base) (hhigh : base ≤ 16) (n : Nat) :
    numeral base (Nat.toDigits base n) = n ∧
      ∀ c ∈ Nat.toDigits base n, isDigitOf base c = true := by
  induction n using Nat.base_induction base hlow with
  | single d hd =>
      have hvalue := hexValue?_digitChar (Nat.lt_of_lt_of_le hd hhigh)
      rw [Nat.toDigits_of_lt_base hd]
      simp [numeral, numeralFrom, isDigitOf, hvalue, hd]
  | digit n d hd hn ih =>
      have hvalue := hexValue?_digitChar (Nat.lt_of_lt_of_le hd hhigh)
      rw [← Nat.toDigits_append_toDigits hlow hn hd, Nat.toDigits_of_lt_base hd,
        numeral_append, ih.1]
      refine ⟨?_, ?_⟩
      · simp [numeralFrom, hvalue, Nat.mul_comm]
      · intro c hc
        rcases List.mem_append.mp hc with hfront | hlast
        · exact ih.2 c hfront
        · obtain rfl := List.mem_singleton.mp hlast
          simp [isDigitOf, hvalue, hd]

theorem isAsciiDigit_of_isDigitOf {c : Char} (hc : isDigitOf 10 c = true) :
    isAsciiDigit c = true := by
  cases hascii : isAsciiDigit c with
  | true => rfl
  | false =>
      -- Any other digit is a letter, whose value is at least ten.
      simp only [isDigitOf, hexValue?, hascii, Bool.false_eq_true, if_false] at hc
      split at hc
      · simp only [Option.any_some, decide_eq_true_eq] at hc
        omega
      · split at hc
        · simp only [Option.any_some, decide_eq_true_eq] at hc
          omega
        · cases hc

theorem head?_toDigits {n : Nat} (hn : n ≠ 0) : (Nat.toDigits 10 n).head? ≠ some '0' := by
  induction n using Nat.base_induction 10 (by decide) with
  | single d hd =>
      rw [Nat.toDigits_of_lt_base hd]
      simpa using hn
  | digit n d hd hpos ih =>
      rw [← Nat.toDigits_append_toDigits (by decide) hpos hd,
        List.head?_append_of_ne_nil _ Nat.toDigits_ne_nil]
      exact ih (Nat.ne_of_gt hpos)

/-- The power of ten that the zeros at the end stand for divides out. -/
theorem pow_trailing_zeros_dvd (n : Nat) :
    Nat.pow 10 ((Nat.toDigits 10 n).reverse.takeWhile (· == '0')).length ∣ n := by
  induction n using Nat.base_induction 10 (by decide) with
  | single d hd =>
      rw [Nat.toDigits_of_lt_base hd]
      by_cases hzero : d = 0
      · simp [hzero]
      · simp [hzero]
  | digit n d hd hpos ih =>
      rw [← Nat.toDigits_append_toDigits (by decide) hpos hd, Nat.toDigits_of_lt_base hd,
        List.reverse_append, List.reverse_singleton, List.singleton_append]
      by_cases hzero : d = 0
      · obtain rfl := hzero
        rw [List.takeWhile_cons_of_pos rfl, List.length_cons]
        exact Nat.mul_comm 10 n ▸ Nat.mul_dvd_mul_right ih 10
      · simp [hzero]

theorem numeral_zeros {base : Nat} (count : Nat) (digits : List Char) :
    numeral base (List.replicate count '0' ++ digits) = numeral base digits := by
  induction count with
  | zero => rfl
  | succ count ih =>
      have hzero : hexValue? '0' = some 0 := rfl
      rw [List.replicate_succ, List.cons_append, ← ih]
      simp [numeral, numeralFrom, hzero]

theorem numeral_shifted (n zeros : Nat) :
    numeral 10 (Nat.toDigits 10 n ++ List.replicate zeros '0') = n * Nat.pow 10 zeros := by
  induction zeros with
  | zero => simpa using (numeral_toDigits (by decide) (by decide) n).1
  | succ zeros ih =>
      have hzero : hexValue? '0' = some 0 := rfl
      rw [List.replicate_succ', ← List.append_assoc, numeral_append, ih]
      simp [numeralFrom, hzero, Nat.pow_succ, Nat.mul_assoc]

theorem isWhole_toDigits (n : Nat) : IsWhole (Nat.toDigits 10 n) where
  numeral := by
    refine ⟨Nat.toDigits_ne_nil, ?_⟩
    intro c hc
    have hdigit := (numeral_toDigits (by decide) (by decide) n).2 c hc
    exact isAsciiDigit_of_isDigitOf hdigit
  zero := by
    intro hhead
    by_cases hn : n = 0
    · obtain rfl := hn
      rfl
    · exact absurd hhead (head?_toDigits hn)

theorem JsonReader.IsWhole.isUnsigned {text : List Char} (htext : IsWhole text) :
    IsUnsigned text := by
  have hparts := IsUnsigned.parts htext .none .none
  simpa using hparts

/-! ## Digits with a point -/

theorem isNumeral_append {digits more : List Char} (hdigits : IsNumeral digits)
    (hmore : ∀ c ∈ more, isAsciiDigit c = true) : IsNumeral (digits ++ more) := by
  refine ⟨List.append_ne_nil_of_left_ne_nil hdigits.1 more, ?_⟩
  intro c hc
  rcases List.mem_append.mp hc with hfront | hback
  · exact hdigits.2 c hfront
  · exact hmore c hback

theorem isAsciiDigit_of_mem_zeros {c : Char} {count : Nat}
    (hc : c ∈ List.replicate count '0') : isAsciiDigit c = true := by
  obtain rfl := List.eq_of_mem_replicate hc
  decide

theorem isWhole_shifted {n : Nat} {zeros : Nat} (hn : n = 0 → zeros = 0) :
    IsWhole (Nat.toDigits 10 n ++ List.replicate zeros '0') where
  numeral := isNumeral_append (isWhole_toDigits n).numeral fun _ => isAsciiDigit_of_mem_zeros
  zero := by
    intro hhead
    have hne : Nat.toDigits 10 n ≠ [] := Nat.toDigits_ne_nil
    rw [List.head?_append_of_ne_nil _ hne] at hhead
    by_cases hzero : n = 0
    · rw [hn hzero, hzero]
      rfl
    · exact absurd hhead (head?_toDigits hzero)

/-- Digits with zeros before them, cut so that so many of them stand behind the point. -/
theorem isWhole_padded {n places : Nat} (hplaces : 0 < places) {padded : List Char}
    (hpadded : padded =
      List.replicate (places + 1 - (Nat.toDigits 10 n).length) '0' ++ Nat.toDigits 10 n) :
    IsWhole (padded.take (padded.length - places)) ∧
      IsNumeral (padded.drop (padded.length - places)) := by
  have hdigits : ∀ c ∈ padded, isAsciiDigit c = true := by
    intro c hc
    rw [hpadded] at hc
    rcases List.mem_append.mp hc with hzero | hdigit
    · exact isAsciiDigit_of_mem_zeros hzero
    · exact (isWhole_toDigits n).numeral.2 c hdigit
  have hlength : padded.length =
      places + 1 - (Nat.toDigits 10 n).length + (Nat.toDigits 10 n).length := by
    rw [hpadded, List.length_append, List.length_replicate]
  have hwhole : 0 < padded.length - places := by omega
  constructor
  · constructor
    · refine ⟨?_, fun c hc => hdigits c (List.mem_of_mem_take hc)⟩
      apply List.ne_nil_of_length_pos
      rw [List.length_take]
      omega
    · intro hhead
      rw [List.head?_take, if_neg (Nat.ne_of_gt hwhole)] at hhead
      by_cases hshort : (Nat.toDigits 10 n).length ≤ places
      · -- One zero at least is put before the digits, and the first of them is all of the whole.
        have hone : padded.length - places = 1 := by omega
        rw [hone]
        cases padded with
        | nil => cases hhead
        | cons c padded =>
            obtain rfl := Option.some.inj hhead
            rfl
      · have hnone : places + 1 - (Nat.toDigits 10 n).length = 0 := by omega
        rw [hnone, List.replicate_zero, List.nil_append] at hpadded
        rw [hpadded] at hhead
        have honly := congrArg List.length ((isWhole_toDigits n).zero hhead)
        rw [List.length_singleton] at honly
        omega
  · refine ⟨?_, fun c hc => hdigits c (List.mem_of_mem_drop hc)⟩
    apply List.ne_nil_of_length_pos
    rw [List.length_drop]
    omega

namespace Decimal

theorem length_repr (n : Nat) : n.repr.length = (Nat.toDigits 10 n).length := by
  rw [← String.length_toList, Nat.toList_repr]

theorem isUnsigned_positional {d : Decimal} (hzero : d.digits = 0 → d.exponent = 0) :
    IsUnsigned d.positional.toList := by
  unfold positional
  simp only
  split
  next hexponent =>
    have hwhole : IsWhole (Nat.toDigits 10 d.digits ++ List.replicate d.exponent.toNat '0') := by
      apply isWhole_shifted
      intro hdigits
      rw [hzero hdigits]
      rfl
    have hdecimals : IsDecimals ['.', '0'] :=
      .behindPoint ⟨List.cons_ne_nil _ _, List.forall_mem_singleton.mpr (by decide)⟩
    have hparts := IsUnsigned.parts hwhole hdecimals .none
    simpa [zeros] using hparts
  next hexponent =>
    have hplaces : 0 < (-d.exponent).toNat := by omega
    have hcut := isWhole_padded (n := d.digits) hplaces rfl
    have hparts := IsUnsigned.parts hcut.1 (.behindPoint hcut.2) .none
    simpa [zeros, length_repr] using hparts

theorem isPower_signed (power : Int) :
    IsPower ((if power < 0 then "e-" else "e+").toList ++ Nat.toDigits 10 power.natAbs) := by
  have hdigits := (isWhole_toDigits power.natAbs).numeral
  split
  · exact .behindMark (.inl rfl) (.inr (.inr rfl)) hdigits
  · exact .behindMark (.inl rfl) (.inr (.inl rfl)) hdigits

theorem isUnsigned_scientific (d : Decimal) (power : Int) :
    IsUnsigned (d.scientific power).toList := by
  obtain ⟨hne, hdigits⟩ := (isWhole_toDigits d.digits).numeral
  have hpower := isPower_signed power
  cases htext : Nat.toDigits 10 d.digits with
  | nil => exact absurd htext hne
  | cons digit rest =>
      rw [htext] at hdigits
      obtain ⟨hdigit, hrest⟩ := List.forall_mem_cons.mp hdigits
      have hwhole := isWhole_digit hdigit
      cases rest with
      | nil =>
          have hparts := IsUnsigned.parts hwhole .none hpower
          simpa [scientific, htext] using hparts
      | cons second rest =>
          have hdecimals := IsDecimals.behindPoint ⟨List.cons_ne_nil second rest, hrest⟩
          have hparts := IsUnsigned.parts hwhole hdecimals hpower
          simpa [scientific, htext] using hparts

theorem normalized_exponent {d : Decimal} (hdigits : d.normalized.digits = 0) :
    d.normalized.exponent = 0 := by
  by_cases hzero : d.digits = 0
  · simp [normalized, hzero]
  · have hpower := Nat.le_of_dvd (Nat.pos_of_ne_zero hzero) (pow_trailing_zeros_dvd d.digits)
    have hpositive :
        Nat.pow 10 ((Nat.toDigits 10 d.digits).reverse.takeWhile (· == '0')).length ≠ 0 :=
      Nat.pos_iff_ne_zero.mp (Nat.pow_pos (by decide))
    simp only [normalized, hzero, if_false, Nat.toList_repr, Nat.div_eq_zero_iff] at hdigits
    omega

theorem isUnsigned_text (d : Decimal) : IsUnsigned d.text.toList := by
  unfold text
  simp only
  split
  · exact isUnsigned_positional normalized_exponent
  · exact isUnsigned_scientific _ _

end Decimal

theorem Magnitude.isUnsigned_text (x : Magnitude) : IsUnsigned x.text.toList :=
  x.shortest.isUnsigned_text

end CardReboot
