import CardReboot.Number.Shortest
import Mathlib.Algebra.Order.Field.Rat
import Mathlib.Tactic.FieldSimp
import Mathlib.Tactic.Linarith
import Mathlib.Tactic.Ring

/-!
# Rounding to the nearest magnitude

A magnitude is the rounding of every number in its neighbourhood: the numbers that are no
further from it than half a step, where an end counts for an even significand.  Below the
magnitudes with the least significand the steps are half as long, and so is the neighbourhood
on that side.
-/

namespace CardReboot

namespace Magnitude

/-! ## Normal magnitudes -/

/-- The magnitude as it comes out of a rounding: the significand is filled up unless the
exponent is the least one. -/
structure IsNormal (x : Magnitude) : Prop where
  significand_lt : x.significand < significandLimit
  le_significand : x.exponent ≠ 0 → significandLimit / 2 ≤ x.significand
  exponent_le : x.exponent ≤ exponentLimit

/-! ## The quotient -/

/-- The whole number is within half a unit of the quotient, and of two such numbers it is the
even one. -/
@[mk_iff]
structure IsNearest (numerator divisor n : Nat) : Prop where
  low : 2 * n * divisor ≤ 2 * numerator + divisor
  high : 2 * numerator ≤ (2 * n + 1) * divisor
  tie : n % 2 = 0 ∨
    (2 * n * divisor < 2 * numerator + divisor ∧ 2 * numerator < (2 * n + 1) * divisor)

theorem IsNearest.not_lt
    {numerator divisor n other : Nat} (hpositive : 0 < divisor)
    (hn : IsNearest numerator divisor n) (hother : IsNearest numerator divisor other) :
    ¬ n < other := by
  intro hlt
  have hhigh := hn.high
  have hlow := hother.low
  have hnext : other = n + 1 := by
    by_contra hfar
    have hmore : (n + 2) * divisor ≤ other * divisor := Nat.mul_le_mul_right _ (by omega)
    linarith
  subst hnext
  -- The quotient is the middle between the two, so one of them is the even one.
  rcases hn.tie with heven | ⟨-, hless⟩
  · rcases hother.tie with hodd | ⟨hless, -⟩
    · omega
    · linarith
  · linarith

theorem IsNearest.lt_mul
    {numerator divisor n more : Nat} (hpositive : 0 < divisor)
    (hn : IsNearest numerator divisor n) (hmore : n < more) : numerator < more * divisor := by
  have hhigh := hn.high
  have hstep : (n + 1) * divisor ≤ more * divisor := Nat.mul_le_mul_right _ hmore
  linarith

theorem IsNearest.mul_le
    {numerator divisor n less : Nat} (hn : IsNearest numerator divisor n) (hless : less < n) :
    less * divisor ≤ numerator := by
  have hlow := hn.low
  have hstep : (less + 1) * divisor ≤ n * divisor := Nat.mul_le_mul_right _ hless
  linarith

theorem isNearest_divideEven (numerator : Nat) {divisor : Nat} (hpositive : 0 < divisor) :
    IsNearest numerator divisor (divideEven numerator divisor) := by
  have hdivision := Nat.div_add_mod numerator divisor
  have hrest := Nat.mod_lt numerator hpositive
  unfold divideEven
  simp only
  generalize numerator / divisor = quotient at hdivision ⊢
  generalize numerator % divisor = rest at hdivision hrest ⊢
  have hunder : 2 * quotient * divisor = 2 * (divisor * quotient) := by ring
  have hmiddle : (2 * quotient + 1) * divisor = 2 * (divisor * quotient) + divisor := by ring
  have hover : 2 * (quotient + 1) * divisor = 2 * (divisor * quotient) + 2 * divisor := by ring
  have hbeyond : (2 * (quotient + 1) + 1) * divisor =
      2 * (divisor * quotient) + 3 * divisor := by ring
  split
  next => constructor <;> omega
  split
  next => constructor <;> omega
  next =>
    rcases Nat.mod_two_eq_zero_or_one quotient with heven | hodd
    · rw [heven, Nat.add_zero]
      constructor <;> omega
    · rw [hodd]
      constructor <;> omega

theorem divideEven_eq_iff {numerator divisor n : Nat} (hpositive : 0 < divisor) :
    divideEven numerator divisor = n ↔ IsNearest numerator divisor n := by
  have hnearest := isNearest_divideEven numerator hpositive
  constructor
  · intro heq
    rwa [heq] at hnearest
  · intro hn
    exact Nat.le_antisymm (Nat.not_lt.mp (hn.not_lt hpositive hnearest))
      (Nat.not_lt.mp (hnearest.not_lt hpositive hn))

/-! ## The exponent -/

/-- At the exponent the significand has no more digits than it may have, and just as many
unless the exponent is the least one. -/
structure Fills (numerator divisor exponent : Nat) : Prop where
  high : numerator * denominator < significandLimit * (divisor * Nat.pow 2 exponent)
  low : exponent ≠ 0 →
    significandLimit / 2 * (divisor * Nat.pow 2 exponent) ≤ numerator * denominator

theorem span_succ (divisor exponent : Nat) :
    divisor * Nat.pow 2 (exponent + 1) = 2 * (divisor * Nat.pow 2 exponent) := by
  rw [Nat.pow_eq, Nat.pow_eq, Nat.pow_succ]
  ring

theorem Fills.not_lt
    {numerator divisor exponent other : Nat} (hfills : Fills numerator divisor exponent)
    (hother : Fills numerator divisor other) : ¬ exponent < other := by
  intro hlt
  have hspan : divisor * Nat.pow 2 (exponent + 1) ≤ divisor * Nat.pow 2 other :=
    Nat.mul_le_mul_left _ (Nat.pow_le_pow_right (by decide) hlt)
  have hdouble : significandLimit = significandLimit / 2 * 2 := by decide
  apply Nat.not_lt.mpr _ hfills.high
  calc
    significandLimit * (divisor * Nat.pow 2 exponent)
      = significandLimit / 2 * 2 * (divisor * Nat.pow 2 exponent) := by rw [← hdouble]
    _ = significandLimit / 2 * (divisor * Nat.pow 2 (exponent + 1)) := by
      rw [span_succ, Nat.mul_assoc]
    _ ≤ significandLimit / 2 * (divisor * Nat.pow 2 other) := Nat.mul_le_mul_left _ hspan
    _ ≤ numerator * denominator := hother.low (Nat.ne_of_gt (Nat.zero_lt_of_lt hlt))

/-- The exponent is read off the size of the quotient. -/
theorem fills_exponentFor (numerator : Nat) {divisor : Nat} (hpositive : 0 < divisor) :
    Fills numerator divisor (exponentFor numerator divisor) := by
  have hspread (n exponent : Nat) :
      n * (divisor * Nat.pow 2 exponent) = n * Nat.pow 2 exponent * divisor := by
    rw [Nat.mul_assoc, Nat.mul_comm divisor]
  have hlimit : significandLimit = 2 ^ 53 := by decide
  have hhalf : significandLimit / 2 = 2 ^ 52 := by decide
  unfold exponentFor
  simp only
  split
  next hsmall =>
    rw [Nat.div_lt_iff_lt_mul hpositive] at hsmall
    refine ⟨?_, fun hne => absurd rfl hne⟩
    rwa [hspread, Nat.pow_eq, Nat.pow_zero, Nat.mul_one]
  next hlarge =>
    generalize hunits : numerator * denominator / divisor = units at hlarge ⊢
    have hne : units ≠ 0 := by omega
    have hlog : 53 ≤ units.log2 := (Nat.le_log2 hne).mpr (hlimit ▸ Nat.not_lt.mp hlarge)
    have habove : 53 + (units.log2 - 52) = units.log2 + 1 := by omega
    have hbelow : 52 + (units.log2 - 52) = units.log2 := by omega
    constructor
    · rw [hspread, ← Nat.div_lt_iff_lt_mul hpositive, hunits, hlimit, Nat.pow_eq, ← Nat.pow_add,
        habove]
      exact Nat.lt_log2_self
    · intro _
      rw [hspread, ← Nat.le_div_iff_mul_le hpositive, hunits, hhalf, Nat.pow_eq, ← Nat.pow_add,
        hbelow]
      exact Nat.log2_self_le hne

/-! ## The neighbourhood -/

/-- The number lies between the ends, which count when they are closed. -/
def Neighbourhood.Holds (area : Neighbourhood) (q : ℚ) : Prop :=
  if area.closed then area.low ≤ q * (4 * denominator) ∧ q * (4 * denominator) ≤ area.high
  else area.low < q * (4 * denominator) ∧ q * (4 * denominator) < area.high

theorem centre_lt_high (x : Magnitude) : x.neighbourhood.centre < x.neighbourhood.high := by
  have hunit : 0 < Nat.pow 2 x.exponent := Nat.pow_pos (by decide)
  simp only [neighbourhood]
  omega

theorem low_lt_centre {x : Magnitude} (hscaled : 0 < x.scaled) :
    x.neighbourhood.low < x.neighbourhood.centre := by
  have hunit : 0 < Nat.pow 2 x.exponent := Nat.pow_pos (by decide)
  simp only [neighbourhood]
  split <;> omega

theorem Neighbourhood.holds_div_iff
    (area : Neighbourhood) (numerator : Nat) {divisor : Nat} (hpositive : 0 < divisor) :
    area.Holds (numerator / divisor) ↔
      if area.closed then
        area.low * divisor ≤ 4 * (numerator * denominator) ∧
          4 * (numerator * denominator) ≤ area.high * divisor
      else
        area.low * divisor < 4 * (numerator * denominator) ∧
          4 * (numerator * denominator) < area.high * divisor := by
  have hdivisor : (0 : ℚ) < divisor := by exact_mod_cast hpositive
  have hpoint : (numerator / divisor : ℚ) * (4 * denominator) =
      (4 * (numerator * denominator) : Nat) / divisor := by
    push_cast
    ring
  unfold Holds
  rw [hpoint, le_div_iff₀ hdivisor, div_le_iff₀ hdivisor, lt_div_iff₀ hdivisor,
    div_lt_iff₀ hdivisor]
  generalize numerator * denominator = scaledUp
  norm_cast

/-- In steps of the magnitude: the significand is the nearest whole number, and below the least
significand the number is within a quarter of a step. -/
theorem holds_iff
    (x : Magnitude) (numerator : Nat) {divisor : Nat} (hpositive : 0 < divisor) :
    x.neighbourhood.Holds (numerator / divisor) ↔
      (x.significand = significandLimit / 2 ∧ 0 < x.exponent →
        4 * x.significand * (divisor * Nat.pow 2 x.exponent) ≤
          4 * (numerator * denominator) + divisor * Nat.pow 2 x.exponent) ∧
      IsNearest (numerator * denominator) (divisor * Nat.pow 2 x.exponent) x.significand := by
  have hunit : 0 < divisor * Nat.pow 2 x.exponent :=
    Nat.mul_pos hpositive (Nat.pow_pos (by decide))
  have heven : significandLimit / 2 % 2 = 0 := by decide
  rw [Neighbourhood.holds_div_iff _ _ hpositive]
  obtain ⟨significand, exponent⟩ := x
  simp only [neighbourhood, scaled, beq_iff_eq] at hunit ⊢
  rw [isNearest_iff]
  generalize numerator * denominator = scaledUp
  generalize Nat.pow 2 exponent = unit at hunit ⊢
  have hcentre : 4 * (significand * unit) * divisor = 4 * (significand * (divisor * unit)) := by
    ring
  have hwide : 2 * unit * divisor = 2 * (divisor * unit) := by ring
  have hquadruple : 4 * significand * (divisor * unit) = 4 * (significand * (divisor * unit)) :=
    Nat.mul_assoc _ _ _
  have hdouble : 2 * significand * (divisor * unit) = 2 * (significand * (divisor * unit)) :=
    Nat.mul_assoc _ _ _
  have hhalf : (2 * significand + 1) * (divisor * unit) =
      2 * (significand * (divisor * unit)) + divisor * unit := by ring
  rw [Nat.sub_mul, Nat.add_mul, hcentre, hwide, hquadruple, hdouble, hhalf]
  by_cases hboundary : significand = significandLimit / 2 ∧ 0 < exponent
  · rw [if_pos hboundary, Nat.mul_comm unit]
    generalize significand * (divisor * unit) = centre
    split <;> omega
  · -- An odd significand is not zero, so nothing is cut off at zero.
    have hcut : significand = 0 ∨ divisor * unit ≤ significand * (divisor * unit) := by
      rcases Nat.eq_zero_or_pos significand with hzero | hsome
      · exact .inl hzero
      · exact .inr (Nat.le_mul_of_pos_left _ hsome)
    rw [if_neg hboundary, hwide]
    generalize significand * (divisor * unit) = centre at hcut ⊢
    split <;> omega

/-! ## The rounding -/

/-- The two ways in which a number is rounded: to a significand that it fills up, or to the
next exponent. -/
inductive Rounds (numerator divisor : Nat) : Magnitude → Prop
  | plain {significand exponent : Nat} (hfills : Fills numerator divisor exponent)
      (hnearest : IsNearest (numerator * denominator) (divisor * Nat.pow 2 exponent) significand)
      (hsmall : significand < significandLimit) :
      Rounds numerator divisor ⟨significand, exponent⟩
  | carry {exponent : Nat} (hfills : Fills numerator divisor exponent)
      (hnearest :
        IsNearest (numerator * denominator) (divisor * Nat.pow 2 exponent) significandLimit) :
      Rounds numerator divisor ⟨significandLimit / 2, exponent + 1⟩

theorem round?_eq_some_iff_rounds
    {numerator divisor : Nat} (hpositive : 0 < divisor) {x : Magnitude} :
    round? numerator divisor = some x ↔
      Rounds numerator divisor x ∧ x.exponent ≤ exponentLimit := by
  have hspan (exponent : Nat) : 0 < divisor * Nat.pow 2 exponent :=
    Nat.mul_pos hpositive (Nat.pow_pos (by decide))
  constructor
  · intro hround
    have hfills := fills_exponentFor numerator hpositive
    unfold round? at hround
    simp only at hround
    generalize exponentFor numerator divisor = exponent at hround hfills
    have hnearest := isNearest_divideEven (numerator * denominator) (hspan exponent)
    generalize divideEven (numerator * denominator) (divisor * Nat.pow 2 exponent) = significand
      at hround hnearest
    obtain ⟨hlimit, hrounded⟩ := Option.ite_none_right_eq_some.mp hround
    obtain rfl := Option.some.inj hrounded
    refine ⟨?_, hlimit⟩
    by_cases hcarry : significand = significandLimit
    · rw [if_pos hcarry]
      exact .carry hfills (hcarry ▸ hnearest)
    · rw [if_neg hcarry]
      apply Rounds.plain hfills hnearest
      by_contra hlarge
      exact Nat.not_lt.mpr (hnearest.mul_le (by omega)) hfills.high
  · intro hrounds
    obtain ⟨hrounds, hlimit⟩ := hrounds
    have hexponent {exponent : Nat} (hfills : Fills numerator divisor exponent) :
        exponentFor numerator divisor = exponent := by
      have hown := fills_exponentFor numerator hpositive
      exact Nat.le_antisymm (Nat.not_lt.mp (hfills.not_lt hown))
        (Nat.not_lt.mp (hown.not_lt hfills))
    unfold round?
    cases hrounds with
    | plain hfills hnearest hsmall =>
        simp only [hexponent hfills, (divideEven_eq_iff (hspan _)).mpr hnearest,
          if_neg (Nat.ne_of_lt hsmall), if_pos hlimit]
    | carry hfills hnearest =>
        simp only [hexponent hfills, (divideEven_eq_iff (hspan _)).mpr hnearest, if_true,
          if_pos hlimit]

theorem Rounds.isNormal
    {numerator divisor : Nat} {x : Magnitude} (hrounds : Rounds numerator divisor x)
    (hpositive : 0 < divisor) (hlimit : x.exponent ≤ exponentLimit) : x.IsNormal := by
  cases hrounds with
  | @plain significand exponent hfills hnearest hsmall =>
      have hspan : 0 < divisor * Nat.pow 2 exponent :=
        Nat.mul_pos hpositive (Nat.pow_pos (by decide))
      refine ⟨hsmall, fun hne => ?_, hlimit⟩
      by_contra hfew
      exact Nat.not_le.mpr (hnearest.lt_mul hspan (Nat.not_le.mp hfew)) (hfills.low hne)
  | carry hfills hnearest =>
      have hhalf : significandLimit / 2 < significandLimit := by decide
      exact ⟨hhalf, fun _ => Nat.le_refl _, hlimit⟩

theorem Rounds.holds
    {numerator divisor : Nat} {x : Magnitude} (hrounds : Rounds numerator divisor x)
    (hpositive : 0 < divisor) : x.neighbourhood.Holds (numerator / divisor) := by
  rw [holds_iff _ _ hpositive]
  cases hrounds with
  | @plain significand exponent hfills hnearest hsmall =>
      refine ⟨fun hboundary => ?_, hnearest⟩
      have hlow := hfills.low (Nat.ne_of_gt hboundary.2)
      rw [← hboundary.1] at hlow
      simp only at hlow ⊢
      rw [Nat.mul_assoc]
      omega
  | @carry exponent hfills hnearest =>
      have hwhole : significandLimit = 2 * (significandLimit / 2) := by decide
      have heven : significandLimit / 2 % 2 = 0 := by decide
      have hhigh := hfills.high
      have hlow := hnearest.low
      rw [hwhole] at hhigh hlow
      simp only [span_succ]
      generalize numerator * denominator = scaledUp at hhigh hlow ⊢
      generalize divisor * Nat.pow 2 exponent = span at hhigh hlow ⊢
      exact ⟨fun _ => by linarith, by linarith, by linarith, .inl heven⟩

/-- Every number in the neighbourhood of a magnitude is rounded to it. -/
theorem rounds_of_holds
    {numerator divisor : Nat} {x : Magnitude} (hx : x.IsNormal) (hpositive : 0 < divisor)
    (hholds : x.neighbourhood.Holds (numerator / divisor)) : Rounds numerator divisor x := by
  obtain ⟨hquarter, hnearest⟩ := (holds_iff x numerator hpositive).mp hholds
  obtain ⟨significand, exponent⟩ := x
  have hspan : 0 < divisor * Nat.pow 2 exponent := Nat.mul_pos hpositive (Nat.pow_pos (by decide))
  simp only at hquarter hnearest
  by_cases hfilled : exponent ≠ 0 →
      significandLimit / 2 * (divisor * Nat.pow 2 exponent) ≤ numerator * denominator
  · exact .plain ⟨hnearest.lt_mul hspan hx.significand_lt, hfilled⟩ hnearest hx.significand_lt
  · -- Only just below the least significand there are numbers with a smaller exponent.
    obtain ⟨hexponent, hunfilled⟩ := Classical.not_imp.mp hfilled
    rw [Nat.not_le] at hunfilled
    have hleast : significand = significandLimit / 2 := by
      have hle : significandLimit / 2 ≤ significand := hx.le_significand hexponent
      by_contra hne
      exact Nat.not_le.mpr hunfilled (hnearest.mul_le (by omega))
    obtain ⟨below, rfl⟩ := Nat.exists_eq_add_one_of_ne_zero hexponent
    have hnear := hquarter ⟨hleast, Nat.succ_pos below⟩
    subst hleast
    have hwhole : significandLimit = 2 * (significandLimit / 2) := by decide
    have heven : significandLimit % 2 = 0 := by decide
    rw [span_succ] at hunfilled hnear hspan
    have hunder : numerator * denominator < significandLimit * (divisor * Nat.pow 2 below) := by
      rw [hwhole]
      linarith
    have hover : 2 * significandLimit * (divisor * Nat.pow 2 below) ≤
        2 * (numerator * denominator) + divisor * Nat.pow 2 below := by
      rw [hwhole]
      linarith
    have hbelow : significandLimit / 2 * (divisor * Nat.pow 2 below) ≤
        numerator * denominator := by
      have hmore : 1 * (divisor * Nat.pow 2 below) ≤
          significandLimit / 2 * (divisor * Nat.pow 2 below) :=
        Nat.mul_le_mul_right _ (by decide)
      linarith
    exact .carry ⟨hunder, fun _ => hbelow⟩ ⟨hover, by linarith, .inl heven⟩

/-- A number is rounded to the magnitude in whose neighbourhood it is. -/
theorem round?_eq_some_iff
    {numerator divisor : Nat} (hpositive : 0 < divisor) {x : Magnitude} :
    round? numerator divisor = some x ↔
      x.IsNormal ∧ x.neighbourhood.Holds (numerator / divisor) := by
  rw [round?_eq_some_iff_rounds hpositive]
  constructor
  · intro hrounds
    exact ⟨hrounds.1.isNormal hpositive hrounds.2, hrounds.1.holds hpositive⟩
  · intro hx
    exact ⟨rounds_of_holds hx.1 hpositive hx.2, hx.1.exponent_le⟩

/-! ## Exact magnitudes -/

theorem denominator_pos : 0 < denominator := by decide +kernel

/-- A magnitude lies in its own neighbourhood. -/
theorem holds_self (x : Magnitude) : x.neighbourhood.Holds (x.scaled / denominator) := by
  have hdenominator : (denominator : ℚ) ≠ 0 := by exact_mod_cast Nat.ne_of_gt denominator_pos
  have hpoint : (x.scaled / denominator : ℚ) * (4 * denominator) = (4 * x.scaled : Nat) := by
    field_simp
    push_cast
    ring
  have hhigh := x.centre_lt_high
  unfold Neighbourhood.Holds
  rw [hpoint, Nat.cast_le, Nat.cast_le, Nat.cast_lt, Nat.cast_lt]
  split
  next => exact ⟨Nat.sub_le _ _, Nat.le_of_lt hhigh⟩
  next hopen =>
    have hnonzero : x.significand ≠ 0 := by
      intro hzero
      simp [neighbourhood, hzero] at hopen
    have hscaled : 0 < x.scaled := Nat.mul_pos (by omega) (Nat.pow_pos (by decide))
    exact ⟨low_lt_centre hscaled, hhigh⟩

/-- A magnitude is the rounding of itself. -/
theorem round?_eq_self
    {x : Magnitude} (hx : x.IsNormal) {numerator divisor : Nat} (hpositive : 0 < divisor)
    (hexact : numerator * denominator = x.scaled * divisor) :
    round? numerator divisor = some x := by
  have hdivisor : (divisor : ℚ) ≠ 0 := by exact_mod_cast Nat.ne_of_gt hpositive
  have hdenominator : (denominator : ℚ) ≠ 0 := by exact_mod_cast Nat.ne_of_gt denominator_pos
  have hquotient : (numerator / divisor : ℚ) = x.scaled / denominator := by
    rw [div_eq_div_iff hdivisor hdenominator]
    exact_mod_cast hexact
  rw [round?_eq_some_iff hpositive, hquotient]
  exact ⟨hx, x.holds_self⟩

/-- A whole number whose digits in base two fit the significand, with zeros behind them. -/
def ofShifted (n zeros : Nat) : Magnitude :=
  ⟨n * Nat.pow 2 (52 - n.log2), n.log2 + zeros + 1022⟩

/-- Stated for a variable: with the exponent in place, every rewriting would begin to compute
the power. -/
theorem denominator_eq {exponent : Nat} (hexponent : exponent = 1074) :
    denominator = 2 ^ exponent := by
  subst hexponent
  decide +kernel

theorem scaled_ofShifted {n : Nat} (hlog : n.log2 ≤ 52) (zeros : Nat) :
    (ofShifted n zeros).scaled = n * Nat.pow 2 zeros * denominator := by
  obtain ⟨exponent, hexponent⟩ : ∃ exponent, exponent = 1074 := ⟨1074, rfl⟩
  have hsum : 52 - n.log2 + (n.log2 + zeros + 1022) = zeros + exponent := by omega
  simp only [ofShifted, scaled, Nat.pow_eq]
  rw [denominator_eq hexponent, Nat.mul_assoc, ← Nat.pow_add, hsum, Nat.pow_add, Nat.mul_assoc]

theorem isNormal_ofShifted
    {n zeros : Nat} (hne : n ≠ 0) (hlog : n.log2 ≤ 52) (hzeros : zeros ≤ 900) :
    (ofShifted n zeros).IsNormal := by
  have hlimit : significandLimit = 2 ^ (n.log2 + 1) * 2 ^ (52 - n.log2) := by
    have hexponents : n.log2 + 1 + (52 - n.log2) = 53 := by omega
    rw [← Nat.pow_add, hexponents]
    rfl
  have hhalf : significandLimit / 2 = 2 ^ n.log2 * 2 ^ (52 - n.log2) := by
    rw [hlimit, Nat.pow_succ, Nat.mul_right_comm, Nat.mul_div_cancel _ (by decide)]
  constructor
  · rw [hlimit]
    exact Nat.mul_lt_mul_of_pos_right Nat.lt_log2_self (Nat.pow_pos (by decide))
  · intro _
    rw [hhalf]
    exact Nat.mul_le_mul_right _ (Nat.log2_self_le hne)
  · simp only [ofShifted, exponentLimit]
    omega

/-- Such a number is a magnitude, and reading it rounds nothing. -/
theorem exists_ofNat?_eq
    {n zeros : Nat} (hn : n < significandLimit) (hzeros : zeros ≤ 900) :
    ∃ m, ofNat? (n * Nat.pow 2 zeros) = some m ∧
      m.scaled = n * Nat.pow 2 zeros * denominator := by
  by_cases hnone : n = 0
  · have hnormal : zero.IsNormal := by
      constructor <;> simp [zero, significandLimit]
    refine ⟨zero, round?_eq_self hnormal Nat.one_pos ?_, ?_⟩
    · simp [hnone, zero, scaled]
    · simp [hnone, zero, scaled]
  · have hlog : n.log2 ≤ 52 := Nat.le_of_lt_succ ((Nat.log2_lt hnone).mpr hn)
    have hscaled := scaled_ofShifted hlog zeros
    refine ⟨_, round?_eq_self (isNormal_ofShifted hnone hlog hzeros) Nat.one_pos ?_, hscaled⟩
    rw [hscaled, Nat.mul_one]

end Magnitude

end CardReboot
