import CardReboot.Proofs.Rounding

/-!
# The shortest decimal of a magnitude

Decimals of seventeen digits stand so close that one of them lies in the neighbourhood of any
magnitude.  So the search for the shortest decimal ends with one that has no more digits, and
that is rounded to the magnitude.
-/

namespace CardReboot

namespace Decimal

/-- The number that the decimal is. -/
def value (d : Decimal) : ℚ := d.digits * 10 ^ d.exponent

end Decimal

namespace Magnitude

open Neighbourhood

/-! ## The places before the point -/

theorem zpow_mul_pow_toNat (place : Int) :
    (10 : ℚ) ^ place * 10 ^ (-place).toNat = 10 ^ place.toNat := by
  have hten : (10 : ℚ) ≠ 0 := by norm_num
  have hsum : place + (-place).toNat = place.toNat := by omega
  rw [← zpow_natCast, ← zpow_add₀ hten, hsum, zpow_natCast]

theorem length_toDigits_spec {n : Nat} (hn : 0 < n) :
    ∃ count, (Nat.toDigits 10 n).length = count + 1 ∧ 10 ^ count ≤ n ∧ n < 10 ^ (count + 1) := by
  obtain ⟨count, hcount⟩ := Nat.exists_eq_add_one_of_ne_zero
    (Nat.ne_of_gt (Nat.length_toDigits_pos (b := 10) (n := n)))
  refine ⟨count, hcount, ?_, ?_⟩
  · by_contra hsmall
    rcases Nat.eq_zero_or_pos count with rfl | hpositive
    · rw [Nat.pow_zero] at hsmall
      omega
    · have hshort := (Nat.length_toDigits_le_iff (by decide) hpositive).mpr (Nat.not_le.mp hsmall)
      omega
  · exact (Nat.length_toDigits_le_iff (by decide) (Nat.succ_pos count)).mp (Nat.le_of_eq hcount)

/-- The first digit of the quotient stands at the place that is counted. -/
theorem integerPlaces_spec
    {numerator divisor : Nat} (hnumerator : 0 < numerator) (hdivisor : 0 < divisor) :
    (10 : ℚ) ^ (integerPlaces numerator divisor - 1) ≤ numerator / divisor ∧
      (numerator / divisor : ℚ) < 10 ^ integerPlaces numerator divisor := by
  have hpositive : (0 : ℚ) < divisor := by exact_mod_cast hdivisor
  unfold integerPlaces
  simp only [← String.length_toList, Nat.toList_repr]
  by_cases hlarge : divisor ≤ numerator
  · obtain ⟨count, hlength, hlow, hhigh⟩ := length_toDigits_spec (Nat.div_pos hlarge hdivisor)
    have hfirst : ((count + 1 : Nat) - 1 : Int) = count := by omega
    rw [Nat.le_div_iff_mul_le hdivisor] at hlow
    rw [Nat.div_lt_iff_lt_mul hdivisor] at hhigh
    rw [if_pos hlarge, hlength, hfirst, zpow_natCast, zpow_natCast, le_div_iff₀ hpositive,
      div_lt_iff₀ hpositive]
    exact_mod_cast And.intro hlow hhigh
  · have hroom : 0 < (divisor - 1) / numerator := Nat.div_pos (by omega) hnumerator
    obtain ⟨count, hlength, hlow, hhigh⟩ := length_toDigits_spec hroom
    have hfirst : (1 - (count + 1 : Nat) - 1 : Int) = -(count + 1 : Nat) := by omega
    have hplaces : (1 - (count + 1 : Nat) : Int) = -(count : Nat) := by omega
    rw [Nat.le_div_iff_mul_le hnumerator] at hlow
    rw [Nat.div_lt_iff_lt_mul hnumerator] at hhigh
    have hbelow : numerator * 10 ^ count < divisor := by
      rw [Nat.mul_comm]
      omega
    have habove : divisor ≤ numerator * 10 ^ (count + 1) := by
      rw [Nat.mul_comm]
      omega
    have hten (k : Nat) : (0 : ℚ) < 10 ^ k := by positivity
    rw [if_neg hlarge, hlength, hfirst, hplaces, zpow_neg, zpow_neg, zpow_natCast, zpow_natCast,
      inv_eq_one_div, inv_eq_one_div, div_le_div_iff₀ (hten _) hpositive,
      div_lt_div_iff₀ hpositive (hten _), one_mul]
    exact_mod_cast And.intro habove hbelow

/-! ## The grid -/

namespace Neighbourhood

variable (area : Neighbourhood) (place : Int)

/-- The neighbourhood in units that make the grid whole. -/
def widened : Neighbourhood :=
  ⟨area.low * Nat.pow 10 (-place).toNat, area.centre * Nat.pow 10 (-place).toNat,
    area.high * Nat.pow 10 (-place).toNat, area.closed⟩

/-- The distance of two points of the grid in these units. -/
def gridStep (place : Int) : Nat := 4 * denominator * Nat.pow 10 place.toNat

theorem onGrid?_eq :
    area.onGrid? place =
      let under := (area.widened place).centre / gridStep place
      let underHit := (area.widened place).contains (under * gridStep place)
      let overHit := (area.widened place).contains ((under + 1) * gridStep place)
      let underGap := (area.widened place).centre - under * gridStep place
      let overGap := (under + 1) * gridStep place - (area.widened place).centre
      if underHit && overHit then
        if underGap < overGap then some under
        else if overGap < underGap then some (under + 1)
        else some (under + under % 2)
      else if underHit then some under
      else if overHit then some (under + 1)
      else none := rfl

theorem cast_gridStep (place : Int) (count : Nat) :
    ((gridStep place * Nat.pow 10 count : Nat) : ℚ) =
      4 * denominator * 10 ^ (place + count) * (Nat.pow 10 (-place).toNat : Nat) := by
  have hten : (10 : ℚ) ≠ 0 := by norm_num
  have hpowers := zpow_mul_pow_toNat place
  simp only [gridStep, Nat.pow_eq, Nat.cast_mul, Nat.cast_pow, Nat.cast_ofNat, ← hpowers,
    zpow_add₀ hten, zpow_natCast]
  ring

theorem cast_pow_pos (count : Nat) : (0 : ℚ) < (Nat.pow 10 count : Nat) := by
  exact_mod_cast Nat.pow_pos (by decide : 0 < 10)

theorem contains_widened_iff (digits : Nat) :
    (area.widened place).contains (digits * gridStep place) = true ↔
      area.Holds (Decimal.value ⟨digits, place⟩) := by
  have hpositive := cast_pow_pos (-place).toNat
  have hpoint : ((digits * gridStep place : Nat) : ℚ) =
      Decimal.value ⟨digits, place⟩ * (4 * denominator) * (Nat.pow 10 (-place).toNat : Nat) := by
    have hstep := cast_gridStep place 0
    rw [Nat.pow_eq, Nat.pow_zero, Nat.mul_one, Nat.cast_zero, add_zero] at hstep
    rw [Nat.cast_mul, hstep, Decimal.value]
    ring
  have hle (n : Nat) : n * Nat.pow 10 (-place).toNat ≤ digits * gridStep place ↔
      (n : ℚ) ≤ Decimal.value ⟨digits, place⟩ * (4 * denominator) := by
    rw [← Nat.cast_le (α := ℚ), hpoint, Nat.cast_mul, mul_le_mul_iff_left₀ hpositive]
  have hge (n : Nat) : digits * gridStep place ≤ n * Nat.pow 10 (-place).toNat ↔
      Decimal.value ⟨digits, place⟩ * (4 * denominator) ≤ n := by
    rw [← Nat.cast_le (α := ℚ), hpoint, Nat.cast_mul, mul_le_mul_iff_left₀ hpositive]
  unfold contains Holds
  simp only [widened]
  by_cases hclosed : area.closed = true
  · simp only [hclosed, if_true, Bool.and_eq_true, decide_eq_true_eq, hle, hge]
  · simp only [hclosed, Bool.false_eq_true, if_false, Bool.and_eq_true, decide_eq_true_eq,
      ← not_le, hle, hge]

variable {area place}

/-- What is found is one of the two points beside the centre, and it lies in the
neighbourhood. -/
theorem onGrid?_spec {digits : Nat} (hfound : area.onGrid? place = some digits) :
    area.Holds (Decimal.value ⟨digits, place⟩) ∧
      digits ≤ (area.widened place).centre / gridStep place + 1 := by
  rw [← contains_widened_iff]
  rw [onGrid?_eq] at hfound
  simp only at hfound
  generalize (area.widened place).centre / gridStep place = under at hfound ⊢
  split at hfound
  next hhits =>
    obtain ⟨hunder, hover⟩ := Bool.and_eq_true_iff.mp hhits
    have hbeside : digits = under ∨ digits = under + 1 := by
      split at hfound
      next => exact .inl (Option.some.inj hfound).symm
      next =>
        split at hfound
        next => exact .inr (Option.some.inj hfound).symm
        next =>
          have hnearest := Option.some.inj hfound
          omega
    rcases hbeside with rfl | rfl
    · exact ⟨hunder, Nat.le_succ _⟩
    · exact ⟨hover, Nat.le_refl _⟩
  next =>
    split at hfound
    next hunder =>
      obtain rfl := Option.some.inj hfound
      exact ⟨hunder, Nat.le_succ _⟩
    next =>
      split at hfound
      next hover =>
        obtain rfl := Option.some.inj hfound
        exact ⟨hover, Nat.le_refl _⟩
      next => cases hfound

theorem gridStep_pos (place : Int) : 0 < gridStep place :=
  Nat.mul_pos (Nat.mul_pos (by decide) denominator_pos) (Nat.pow_pos (by decide))

theorem contains_of_lt {point : Nat} (hlow : area.low < point) (hhigh : point < area.high) :
    area.contains point = true := by
  unfold contains
  split
  next => simp [Nat.le_of_lt hlow, Nat.le_of_lt hhigh]
  next => simp [hlow, hhigh]

/-- One of the two points beside the centre is in the neighbourhood when that is wider than
their distance. -/
theorem isSome_onGrid?
    (hstep : gridStep place < (area.widened place).high - (area.widened place).low)
    (hlow : (area.widened place).low < (area.widened place).centre)
    (hhigh : (area.widened place).centre < (area.widened place).high) :
    (area.onGrid? place).isSome = true := by
  have hdivision := Nat.div_add_mod (area.widened place).centre (gridStep place)
  have hrest := Nat.mod_lt (area.widened place).centre (gridStep_pos place)
  rw [Nat.mul_comm] at hdivision
  rw [onGrid?_eq]
  simp only
  generalize (area.widened place).centre / gridStep place = under at hdivision ⊢
  have hover : (under + 1) * gridStep place = under * gridStep place + gridStep place := by ring
  by_cases hunder : (area.widened place).low < under * gridStep place
  · have hhit : (area.widened place).contains (under * gridStep place) = true :=
      contains_of_lt hunder (by omega)
    rw [hhit]
    split
    next => split <;> [rfl; split <;> rfl]
    next => rfl
  · have hhit : (area.widened place).contains ((under + 1) * gridStep place) = true :=
      contains_of_lt (by omega) (by omega)
    rw [hhit]
    split
    next => split <;> [rfl; split <;> rfl]
    next => split <;> rfl

end Neighbourhood

/-! ## The search -/

/-- The search tries the grids in turn and ends with the first on which there is a point. -/
theorem shortestFrom_spec
    {area : Neighbourhood} {places : Int} {tries last : Nat}
    (hlast : (area.onGrid? (places - last)).isSome = true) {count : Nat}
    (htries : count + tries = last) :
    ∃ found digits, count ≤ found ∧ found ≤ last ∧
      shortestFrom area places (tries + 1) count = ⟨digits, places - found⟩ ∧
        area.onGrid? (places - found) = some digits := by
  induction tries generalizing count with
  | zero =>
      obtain rfl : count = last := htries
      obtain ⟨digits, hdigits⟩ := Option.isSome_iff_exists.mp hlast
      refine ⟨count, digits, Nat.le_refl _, Nat.le_refl _, ?_, hdigits⟩
      simp only [shortestFrom, hdigits]
  | succ tries ih =>
      rw [shortestFrom]
      cases hgrid : area.onGrid? (places - count) with
      | some digits => exact ⟨count, digits, Nat.le_refl _, by omega, rfl, hgrid⟩
      | none =>
          obtain ⟨found, digits, hcount, hfound⟩ := @ih (count + 1) (by omega)
          exact ⟨found, digits, by omega, hfound⟩

section Places

variable {x : Magnitude} (hscaled : 0 < x.scaled)

include hscaled

/-- With one digit more than `count` the grid is finer than the magnitude by this power. -/
theorem gridStep_le (count : Nat) :
    gridStep (integerPlaces x.scaled denominator - (count + 1 : Nat)) * Nat.pow 10 count ≤
      4 * x.scaled *
        Nat.pow 10 (-(integerPlaces x.scaled denominator - (count + 1 : Nat))).toNat := by
  obtain ⟨hlow, -⟩ := integerPlaces_spec hscaled denominator_pos
  have hdenominator : (0 : ℚ) < denominator := by exact_mod_cast denominator_pos
  rw [le_div_iff₀ hdenominator] at hlow
  generalize integerPlaces x.scaled denominator = places at hlow ⊢
  have hplace : places - (count + 1 : Nat) + count = places - 1 := by omega
  have hpositive := cast_pow_pos (-(places - (count + 1 : Nat))).toNat
  rw [← Nat.cast_le (α := ℚ), cast_gridStep, hplace, Nat.cast_mul, Nat.cast_mul, Nat.cast_ofNat,
    mul_le_mul_iff_left₀ hpositive]
  linarith

theorem lt_gridStep (count : Nat) :
    4 * x.scaled * Nat.pow 10 (-(integerPlaces x.scaled denominator - count)).toNat <
      gridStep (integerPlaces x.scaled denominator - count) * Nat.pow 10 count := by
  obtain ⟨-, hhigh⟩ := integerPlaces_spec hscaled denominator_pos
  have hdenominator : (0 : ℚ) < denominator := by exact_mod_cast denominator_pos
  rw [div_lt_iff₀ hdenominator] at hhigh
  generalize integerPlaces x.scaled denominator = places at hhigh ⊢
  have hplace : places - count + count = places := by omega
  have hpositive := cast_pow_pos (-(places - count)).toNat
  rw [← Nat.cast_lt (α := ℚ), cast_gridStep, hplace, Nat.cast_mul, Nat.cast_mul, Nat.cast_ofNat,
    mul_lt_mul_iff_left₀ hpositive]
  linarith

/-- The neighbourhood is so wide that sixteen digits more reach over the magnitude. -/
theorem centre_lt_width (hx : x.IsNormal) :
    x.neighbourhood.centre < (x.neighbourhood.high - x.neighbourhood.low) * 10 ^ 16 := by
  have hsmall : x.significand ≤ 2 ^ 53 := Nat.le_of_lt hx.significand_lt
  have hunits : Nat.pow 2 x.exponent ≤ x.scaled :=
    Nat.le_mul_of_pos_left _ (Nat.pos_of_mul_pos_right hscaled)
  have hunit : 0 < Nat.pow 2 x.exponent := Nat.pow_pos (by decide)
  simp only [neighbourhood]
  split
  next hboundary =>
    have hleast : x.scaled = 2 ^ 52 * Nat.pow 2 x.exponent := by
      rw [scaled, hboundary.1]
      rfl
    omega
  next =>
    have hmost : x.scaled ≤ 2 ^ 53 * Nat.pow 2 x.exponent := Nat.mul_le_mul_right _ hsmall
    omega

/-- Seventeen digits are enough: their grid is finer than the neighbourhood is wide. -/
theorem isSome_onGrid?_seventeen (hx : x.IsNormal) :
    (x.neighbourhood.onGrid? (integerPlaces x.scaled denominator - 17)).isSome = true := by
  have hgrid := gridStep_le hscaled 16
  have hseventeen : ((16 + 1 : Nat) : Int) = 17 := rfl
  rw [hseventeen] at hgrid
  generalize integerPlaces x.scaled denominator - 17 = place at hgrid ⊢
  have hup : 0 < Nat.pow 10 (-place).toNat := Nat.pow_pos (by decide)
  apply isSome_onGrid?
  · have hwide := Nat.mul_lt_mul_of_pos_right (centre_lt_width hscaled hx) hup
    rw [Nat.mul_right_comm] at hwide
    simp only [widened]
    rw [← Nat.sub_mul]
    exact Nat.lt_of_mul_lt_mul_right (Nat.lt_of_le_of_lt hgrid hwide)
  · exact Nat.mul_lt_mul_of_pos_right (low_lt_centre hscaled) hup
  · exact Nat.mul_lt_mul_of_pos_right x.centre_lt_high hup

theorem places_bounds (hx : x.IsNormal) :
    -400 < integerPlaces x.scaled denominator ∧ integerPlaces x.scaled denominator ≤ 400 := by
  obtain ⟨hlow, hhigh⟩ := integerPlaces_spec hscaled denominator_pos
  have hdenominator : (0 : ℚ) < denominator := by exact_mod_cast denominator_pos
  have hten : (1 : ℚ) < 10 := by norm_num
  constructor
  · have hleast : (10 : ℚ) ^ (-400 : Int) ≤ x.scaled / denominator := by
      have hsmall : denominator ≤ 10 ^ 400 := by decide +kernel
      have hscaledDown : denominator ≤ x.scaled * 10 ^ 400 :=
        Nat.le_trans hsmall (Nat.le_mul_of_pos_left _ hscaled)
      rw [zpow_neg, inv_eq_one_div, div_le_div_iff₀ (zpow_pos (by norm_num) _) hdenominator,
        one_mul]
      exact_mod_cast hscaledDown
    exact (zpow_lt_zpow_iff_right₀ hten).mp (lt_of_le_of_lt hleast hhigh)
  · have hmost : (x.scaled / denominator : ℚ) < 10 ^ (400 : Int) := by
      have hlarge : significandLimit * Nat.pow 2 exponentLimit ≤ 10 ^ 400 * denominator := by
        decide +kernel
      have hmono {least most : Nat} (hle : least ≤ most) : Nat.pow 2 least ≤ Nat.pow 2 most :=
        Nat.pow_le_pow_right (by decide) hle
      have hscaledUp : x.scaled < 10 ^ 400 * denominator := by
        calc
          x.scaled < significandLimit * Nat.pow 2 x.exponent :=
            Nat.mul_lt_mul_of_pos_right hx.significand_lt (Nat.pow_pos (by decide))
          _ ≤ significandLimit * Nat.pow 2 exponentLimit :=
            Nat.mul_le_mul_left _ (hmono hx.exponent_le)
          _ ≤ 10 ^ 400 * denominator := hlarge
      rw [div_lt_iff₀ hdenominator]
      exact_mod_cast hscaledUp
    have hplaces := (zpow_lt_zpow_iff_right₀ hten).mp (lt_of_le_of_lt hlow hmost)
    omega

/-- The shortest decimal is a point of the grid with so many digits. -/
theorem exists_shortest_eq (hx : x.IsNormal) :
    ∃ (count digits : Nat), count ≤ 17 ∧
      x.shortest = ⟨digits, integerPlaces x.scaled denominator - count⟩ ∧
        x.neighbourhood.onGrid? (integerPlaces x.scaled denominator - count) = some digits := by
  have hnonzero : x.significand ≠ 0 := Nat.ne_of_gt (Nat.pos_of_mul_pos_right hscaled)
  obtain ⟨count, digits, -, hcount, hsearch, hgrid⟩ :=
    @shortestFrom_spec _ _ 16 17 (isSome_onGrid?_seventeen hscaled hx) 1 rfl
  refine ⟨count, digits, hcount, ?_, hgrid⟩
  rw [shortest, if_neg hnonzero, hsearch]

end Places

/-- The shortest decimal is rounded to the magnitude, and it has seventeen digits at most. -/
theorem shortest_spec {x : Magnitude} (hx : x.IsNormal) :
    x.neighbourhood.Holds x.shortest.value ∧ x.shortest.digits ≤ 10 ^ 17 ∧
      x.shortest.exponent.natAbs ≤ 417 := by
  by_cases hzero : x.significand = 0
  · have hshortest : x.shortest = ⟨0, 0⟩ := by rw [shortest, if_pos hzero]
    have hself := x.holds_self
    rw [scaled, hzero, Nat.zero_mul, Nat.cast_zero, zero_div] at hself
    rw [hshortest]
    refine ⟨?_, Nat.zero_le _, Nat.zero_le _⟩
    rwa [Decimal.value, Nat.cast_zero, zero_mul]
  · have hscaled : 0 < x.scaled :=
      Nat.mul_pos (Nat.pos_of_ne_zero hzero) (Nat.pow_pos (by decide))
    obtain ⟨count, digits, hcount, hshortest, hgrid⟩ := exists_shortest_eq hscaled hx
    obtain ⟨hholds, hdigits⟩ := onGrid?_spec hgrid
    have hplaces := places_bounds hscaled hx
    have hcentre : digits ≤ 10 ^ count := by
      have hstep := lt_gridStep hscaled count
      rw [Nat.mul_comm (gridStep _), ← Nat.div_lt_iff_lt_mul (gridStep_pos _)] at hstep
      exact Nat.le_trans hdigits hstep
    rw [hshortest]
    refine ⟨hholds, ?_, ?_⟩
    · exact Nat.le_trans hcentre (Nat.pow_le_pow_right (by decide) hcount)
    · simp only
      omega

end Magnitude

end CardReboot
