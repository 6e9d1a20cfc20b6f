import Mathlib
import TaggedConfig.Number.Decimal

/-!
# Rounding to binary numbers

A fraction is rounded to the binary number in whose neighbourhood it lies.  Fractions are pairs of a
numerator and a denominator; what is computed with them depends on their value only.
-/

namespace TaggedConfig

def fractionValue (fraction : Nat × Nat) : ℚ := fraction.1 / fraction.2

/-- A fraction of which one side is multiplied by a power has its value multiplied by the power. -/
theorem fractionValue_scaled {base : Nat} (positive : 0 < base) (numerator denominator : Nat)
    (exponent : Int) :
    fractionValue (numerator * Nat.pow base (-exponent).toNat,
        denominator * Nat.pow base exponent.toNat) =
      fractionValue (numerator, denominator) * base ^ (-exponent) := by
  have divisor : (base : ℚ) ≠ 0 := Nat.cast_ne_zero.mpr positive.ne'
  unfold fractionValue
  dsimp only
  rw [Nat.pow_eq, Nat.pow_eq]
  push_cast
  rcases le_total 0 exponent with up | down
  · obtain ⟨count, rfl⟩ := Int.eq_ofNat_of_zero_le up
    have none : (-(count : Int)).toNat = 0 := by omega
    rw [none, Int.toNat_natCast, zpow_neg, zpow_natCast, pow_zero, mul_one, ← div_div,
      div_eq_mul_inv _ ((base : ℚ) ^ count)]
  · obtain ⟨count, same⟩ := Int.eq_ofNat_of_zero_le (Int.neg_nonneg_of_nonpos down)
    have none : exponent.toNat = 0 := by omega
    rw [none, same, Int.toNat_natCast, zpow_natCast, pow_zero, mul_one, mul_div_right_comm]

namespace BinaryFormat

theorem denominator_scaleDown_pos {denominator : Nat} (positive : 0 < denominator)
    (numerator : Nat) (exponent : Int) : 0 < (scaleDown numerator denominator exponent).2 :=
  Nat.mul_pos positive (Nat.pow_pos (by norm_num))

theorem fractionValue_scaleDown (numerator denominator : Nat) (exponent : Int) :
    fractionValue (scaleDown numerator denominator exponent) =
      fractionValue (numerator, denominator) * 2 ^ (-exponent) := by
  have scaled := fractionValue_scaled Nat.two_pos numerator denominator exponent
  rw [Nat.cast_ofNat] at scaled
  exact scaled

/-- An integer is the nearest one if twice the distance is at most one, and less unless it is even. -/
theorem roundHalfEven_eq {numerator denominator nearest : Nat} (positive : 0 < denominator)
    (low : 2 * nearest * denominator ≤ 2 * numerator + denominator)
    (high : 2 * numerator ≤ 2 * nearest * denominator + denominator)
    (strict : nearest % 2 = 1 → 2 * nearest * denominator < 2 * numerator + denominator ∧
      2 * numerator < 2 * nearest * denominator + denominator) :
    roundHalfEven numerator denominator = nearest := by
  have split := Nat.div_add_mod numerator denominator
  have small := Nat.mod_lt numerator positive
  unfold roundHalfEven
  dsimp only
  generalize numerator / denominator = quotient at split ⊢
  generalize numerator % denominator = rest at split small ⊢
  subst split
  have notBelow : quotient ≤ nearest := by
    by_contra below
    nlinarith [Nat.mul_le_mul_right denominator (Nat.lt_of_not_le below)]
  have notAbove : nearest ≤ quotient + 1 := by
    by_contra above
    nlinarith [Nat.mul_le_mul_right denominator (Nat.lt_of_not_le above)]
  have near : nearest = quotient ∨ nearest = quotient + 1 := by omega
  rcases near with rfl | rfl
  · have half : 2 * rest ≤ denominator := by nlinarith
    have even : 2 * rest = denominator → nearest % 2 ≠ 1 := by
      intro tie odd
      nlinarith [(strict odd).2]
    rw [if_neg]
    simp only [Bool.or_eq_true, Bool.and_eq_true, decide_eq_true_eq, beq_iff_eq, not_or, not_and]
    exact ⟨by omega, even⟩
  · have half : denominator ≤ 2 * rest := by nlinarith
    have odd : 2 * rest = denominator → quotient % 2 = 1 := by
      intro tie
      by_contra even
      nlinarith [(strict (by omega)).1]
    rw [if_pos]
    simp only [Bool.or_eq_true, Bool.and_eq_true, decide_eq_true_eq, beq_iff_eq]
    rcases Nat.lt_or_eq_of_le half with more | tie
    · exact .inl more
    · exact .inr ⟨tie.symm, odd tie.symm⟩

theorem roundHalfEven_of_value {numerator denominator nearest : Nat} (positive : 0 < denominator)
    (low : (nearest : ℚ) - 1 / 2 ≤ fractionValue (numerator, denominator))
    (high : fractionValue (numerator, denominator) ≤ nearest + 1 / 2)
    (strict : nearest % 2 = 1 → (nearest : ℚ) - 1 / 2 < fractionValue (numerator, denominator) ∧
      fractionValue (numerator, denominator) < nearest + 1 / 2) :
    roundHalfEven numerator denominator = nearest := by
  have divisor : (0 : ℚ) < denominator := Nat.cast_pos.mpr positive
  unfold fractionValue at low high strict
  dsimp only at low high strict
  rw [le_div_iff₀ divisor] at low
  rw [div_le_iff₀ divisor] at high
  refine roundHalfEven_eq positive ?_ ?_ fun odd => ?_
  · have : (2 * nearest * denominator : ℚ) ≤ 2 * numerator + denominator := by linarith
    exact_mod_cast this
  · have : (2 * numerator : ℚ) ≤ 2 * nearest * denominator + denominator := by linarith
    exact_mod_cast this
  · obtain ⟨above, below⟩ := strict odd
    rw [lt_div_iff₀ divisor] at above
    rw [div_lt_iff₀ divisor] at below
    constructor
    · have : (2 * nearest * denominator : ℚ) < 2 * numerator + denominator := by linarith
      exact_mod_cast this
    · have : (2 * numerator : ℚ) < 2 * nearest * denominator + denominator := by linarith
      exact_mod_cast this

theorem log2_bounds {value : Nat} (positive : 0 < value) :
    (2 : ℚ) ^ (Nat.log2 value : Int) ≤ value ∧ (value : ℚ) < 2 ^ ((Nat.log2 value : Int) + 1) := by
  constructor
  · rw [zpow_natCast]
    exact_mod_cast Nat.log2_self_le positive.ne'
  · rw [← Nat.cast_succ, zpow_natCast]
    exact_mod_cast Nat.lt_log2_self

/-- The value of a fraction lies between two powers of two that the logarithms give. -/
theorem fractionValue_bounds {numerator denominator : Nat} (above : 0 < numerator)
    (below : 0 < denominator) :
    (2 : ℚ) ^ ((Nat.log2 numerator : Int) - Nat.log2 denominator - 1) ≤
        fractionValue (numerator, denominator) ∧
      fractionValue (numerator, denominator) <
        2 ^ ((Nat.log2 numerator : Int) - Nat.log2 denominator + 1) := by
  obtain ⟨numeratorLow, numeratorHigh⟩ := log2_bounds above
  obtain ⟨denominatorLow, denominatorHigh⟩ := log2_bounds below
  have positive : (0 : ℚ) < denominator := Nat.cast_pos.mpr below
  unfold fractionValue
  constructor
  · rw [le_div_iff₀ positive]
    calc (2 : ℚ) ^ ((Nat.log2 numerator : Int) - Nat.log2 denominator - 1) * denominator
        ≤ 2 ^ ((Nat.log2 numerator : Int) - Nat.log2 denominator - 1) *
            2 ^ ((Nat.log2 denominator : Int) + 1) :=
          mul_le_mul_of_nonneg_left denominatorHigh.le (by positivity)
      _ = 2 ^ (Nat.log2 numerator : Int) := by
          rw [← zpow_add₀ (by norm_num)]
          congr 1
          ring
      _ ≤ numerator := numeratorLow
  · rw [div_lt_iff₀ positive]
    calc (numerator : ℚ) < 2 ^ ((Nat.log2 numerator : Int) + 1) := numeratorHigh
      _ = 2 ^ ((Nat.log2 numerator : Int) - Nat.log2 denominator + 1) *
            2 ^ (Nat.log2 denominator : Int) := by
          rw [← zpow_add₀ (by norm_num)]
          congr 1
          ring
      _ ≤ 2 ^ ((Nat.log2 numerator : Int) - Nat.log2 denominator + 1) * denominator :=
          mul_le_mul_of_nonneg_left denominatorLow (by positivity)

/-- With its exponent, a positive fraction has a significand of full length. -/
theorem exponentOf_bounds (format : BinaryFormat) {numerator denominator : Nat}
    (above : 0 < numerator) (below : 0 < denominator) :
    (2 : ℚ) ^ (format.exponentOf numerator denominator + format.precision - 1) ≤
        fractionValue (numerator, denominator) ∧
      fractionValue (numerator, denominator) <
        2 ^ (format.exponentOf numerator denominator + format.precision) := by
  obtain ⟨least, greatest⟩ := fractionValue_bounds above below
  have scaled := fractionValue_scaleDown numerator denominator
    ((Nat.log2 numerator : Int) - Nat.log2 denominator - format.precision)
  have positive := denominator_scaleDown_pos below numerator
    ((Nat.log2 numerator : Int) - Nat.log2 denominator - format.precision)
  unfold exponentOf
  dsimp only
  generalize scaleDown numerator denominator _ = fraction at scaled positive
  have reached : Nat.pow 2 format.precision * fraction.2 ≤ fraction.1 ↔
      (2 : ℚ) ^ ((Nat.log2 numerator : Int) - Nat.log2 denominator) ≤
        fractionValue (numerator, denominator) := by
    have fractionPositive : (0 : ℚ) < fraction.2 := Nat.cast_pos.mpr positive
    have power : (0 : ℚ) <
        2 ^ ((Nat.log2 numerator : Int) - Nat.log2 denominator - format.precision) := by positivity
    rw [← Nat.cast_le (α := ℚ), Nat.cast_mul, ← le_div_iff₀ fractionPositive]
    change ((2 ^ format.precision : Nat) : ℚ) ≤ fractionValue fraction ↔ _
    rw [scaled, zpow_neg, ← div_eq_mul_inv, le_div_iff₀ power, Nat.cast_pow, ← zpow_natCast,
      Nat.cast_ofNat, ← zpow_add₀ (by norm_num)]
    rw [add_sub_cancel]
  split
  · rename_i large
    rw [add_right_comm, sub_add_cancel]
    refine ⟨?_, greatest⟩
    rw [add_sub_cancel_right]
    exact reached.mp large
  · rename_i small
    rw [sub_add_cancel]
    exact ⟨least, lt_of_not_ge (mt reached.mpr small)⟩

end BinaryFormat

namespace Binary

variable {format : BinaryFormat}

def Neighbourhood.Holds (around : Neighbourhood) (value : ℚ) : Prop :=
  if around.closed then fractionValue around.low ≤ value ∧ value ≤ fractionValue around.high
  else fractionValue around.low < value ∧ value < fractionValue around.high

/-- What bits below infinity stand for: a significand that is of full length unless it is a small one
in the smallest unit. -/
structure IsRegular (format : BinaryFormat) (significand : Nat) (exponent : Int) : Prop where
  positive : 0 < significand
  short : significand < 2 ^ format.precision
  least : format.unitExponent ≤ exponent
  full : format.hiddenBit ≤ significand ∨ exponent = format.unitExponent

def quartersBelow (format : BinaryFormat) (significand : Nat) (exponent : Int) : Nat :=
  if significand = format.hiddenBit ∧ format.unitExponent < exponent then 1 else 2

theorem fractionValue_quarters (count : Nat) (exponent : Int) :
    fractionValue (BinaryFormat.scaleDown count 1 (2 - exponent)) = count * 2 ^ (exponent - 2) := by
  rw [BinaryFormat.fractionValue_scaleDown, neg_sub]
  unfold fractionValue
  rw [Nat.cast_one, div_one]

theorem low_neighbourhood {significand : Nat} (positive : 0 < significand) (exponent : Int) :
    fractionValue (neighbourhood format significand exponent).low =
      (4 * significand - quartersBelow format significand exponent) * 2 ^ (exponent - 2) := by
  have fits : quartersBelow format significand exponent ≤ 4 * significand := by
    unfold quartersBelow
    split <;> omega
  have same : (neighbourhood format significand exponent).low = BinaryFormat.scaleDown
      (4 * significand - quartersBelow format significand exponent) 1 (2 - exponent) := by
    unfold neighbourhood quartersBelow
    simp only [Bool.and_eq_true, beq_iff_eq, decide_eq_true_eq]
  rw [same, fractionValue_quarters, Nat.cast_sub fits]
  push_cast
  rfl

theorem value_neighbourhood (significand : Nat) (exponent : Int) :
    fractionValue (neighbourhood format significand exponent).value =
      4 * significand * 2 ^ (exponent - 2) := by
  have same := fractionValue_quarters (4 * significand) exponent
  push_cast at same
  exact same

theorem high_neighbourhood (significand : Nat) (exponent : Int) :
    fractionValue (neighbourhood format significand exponent).high =
      (4 * significand + 2) * 2 ^ (exponent - 2) := by
  have same := fractionValue_quarters (4 * significand + 2) exponent
  push_cast at same
  exact same

theorem closed_neighbourhood (significand : Nat) (exponent : Int) :
    (neighbourhood format significand exponent).closed = (significand % 2 == 0) := rfl

/-- The ends of a neighbourhood belong to it only if the significand is even. -/
theorem bounds_of_holds {significand : Nat} {exponent : Int} {value : ℚ}
    (positive : 0 < significand)
    (holds : (neighbourhood format significand exponent).Holds value) :
    let unit : ℚ := 2 ^ (exponent - 2)
    let below : ℚ := quartersBelow format significand exponent
    (4 * significand - below) * unit ≤ value ∧ value ≤ (4 * significand + 2) * unit ∧
      (significand % 2 = 1 →
        (4 * significand - below) * unit < value ∧ value < (4 * significand + 2) * unit) := by
  unfold Neighbourhood.Holds at holds
  rw [low_neighbourhood positive, high_neighbourhood, closed_neighbourhood] at holds
  rcases Nat.mod_two_eq_zero_or_one significand with even | odd
  · rw [even] at holds ⊢
    exact ⟨holds.1, holds.2, nofun⟩
  · rw [odd] at holds
    exact ⟨holds.1.le, holds.2.le, fun _ => holds⟩

/-- In the unit of its exponent, a value in a neighbourhood is at most half a unit away. -/
theorem roundHalfEven_scaleDown {numerator denominator : Nat} {exponent : Int}
    (below : 0 < denominator) (nearest : Nat)
    (low : (4 * nearest - 2 : ℚ) * 2 ^ (exponent - 2) ≤ fractionValue (numerator, denominator))
    (high : fractionValue (numerator, denominator) ≤ (4 * nearest + 2) * 2 ^ (exponent - 2))
    (strict : nearest % 2 = 1 →
      (4 * nearest - 2 : ℚ) * 2 ^ (exponent - 2) < fractionValue (numerator, denominator) ∧
        fractionValue (numerator, denominator) < (4 * nearest + 2) * 2 ^ (exponent - 2)) :
    BinaryFormat.roundHalfEven (BinaryFormat.scaleDown numerator denominator exponent).1
      (BinaryFormat.scaleDown numerator denominator exponent).2 = nearest := by
  have unit : (0 : ℚ) < 2 ^ (exponent - 2) := by positivity
  have quarter : (2 : ℚ) ^ exponent = 4 * 2 ^ (exponent - 2) := by
    rw [zpow_sub₀ (by norm_num)]
    norm_num
    ring
  have scaled := BinaryFormat.fractionValue_scaleDown numerator denominator exponent
  rw [zpow_neg, quarter, ← div_eq_mul_inv] at scaled
  have positive := BinaryFormat.denominator_scaleDown_pos below numerator exponent
  have divisor : (0 : ℚ) < 4 * 2 ^ (exponent - 2) := by positivity
  generalize BinaryFormat.scaleDown numerator denominator exponent = fraction at scaled positive
  obtain ⟨upper, lower⟩ := fraction
  refine BinaryFormat.roundHalfEven_of_value positive ?_ ?_ fun odd => ?_
  · rw [scaled, le_div_iff₀ divisor]
    linarith
  · rw [scaled, div_le_iff₀ divisor]
    linarith
  · obtain ⟨above, under⟩ := strict odd
    rw [scaled, lt_div_iff₀ divisor, div_lt_iff₀ divisor]
    constructor
    · linarith
    · linarith

theorem two_pow_precision (full : 0 < format.precision) :
    2 ^ format.precision = 2 * format.hiddenBit := by
  obtain ⟨length, same⟩ := Nat.exists_eq_add_of_lt full
  unfold BinaryFormat.hiddenBit
  rw [same, zero_add, Nat.add_sub_cancel, pow_succ, mul_comm]
  rfl

/-- Full significands in some unit lie below this power of two. -/
theorem zpow_add_precision (full : 0 < format.precision) (exponent : Int) :
    (2 : ℚ) ^ (exponent + format.precision) = 2 * format.hiddenBit * 2 ^ exponent := by
  have power : (2 : ℚ) ^ format.precision = 2 * format.hiddenBit := by
    exact_mod_cast two_pow_precision full
  rw [zpow_add₀ (by norm_num), zpow_natCast, power, mul_comm]

/-- The same power of two in quarters of the unit. -/
theorem zpow_precision (full : 0 < format.precision) (exponent : Int) :
    (2 : ℚ) ^ (exponent + format.precision) = 8 * format.hiddenBit * 2 ^ (exponent - 2) := by
  rw [zpow_add_precision full, zpow_sub₀ (by norm_num)]
  norm_num
  ring

theorem hiddenBit_pos (format : BinaryFormat) : 0 < format.hiddenBit :=
  Nat.pow_pos (by norm_num)

/-- The exponent of a value in a neighbourhood is that of the number, or one less right below a power
of two. -/
theorem exponent_of_holds {significand : Nat} {exponent own : Int} {value : ℚ}
    (full : 0 < format.precision) (regular : IsRegular format significand exponent)
    (holds : (neighbourhood format significand exponent).Holds value)
    (fits : (2 : ℚ) ^ (own + format.precision - 1) ≤ value)
    (exceeds : value < 2 ^ (own + format.precision)) :
    max format.unitExponent own = exponent ∨
      quartersBelow format significand exponent = 1 ∧ own = exponent - 1 := by
  obtain ⟨least, greatest, -⟩ := bounds_of_holds regular.positive holds
  have unit : (0 : ℚ) < 2 ^ (exponent - 2) := by positivity
  have whole := zpow_precision full exponent
  have hidden : (1 : ℚ) ≤ format.hiddenBit := Nat.one_le_cast.mpr (hiddenBit_pos format)
  have grows {first second : Int} (less : (2 : ℚ) ^ first < 2 ^ second) : first < second :=
    (zpow_lt_zpow_iff_right₀ (by norm_num)).mp less
  have notAbove : own ≤ exponent := by
    have short : (significand : ℚ) + 1 ≤ 2 * format.hiddenBit := by
      have := regular.short
      rw [two_pow_precision full] at this
      exact_mod_cast this
    have less : value < 2 ^ (exponent + format.precision) := by
      rw [whole]
      nlinarith
    have := grows (fits.trans_lt less)
    omega
  by_cases smallest : exponent = format.unitExponent
  · left
    omega
  have larger : format.unitExponent < exponent := lt_of_le_of_ne regular.least (Ne.symm smallest)
  have long : format.hiddenBit ≤ significand := by
    rcases regular.full with long | same
    · exact long
    · exact absurd same smallest
  rcases Nat.lt_or_eq_of_le long with longer | power
  · left
    have two : quartersBelow format significand exponent = 2 :=
      if_neg fun narrow => longer.ne' narrow.1
    have next : (format.hiddenBit : ℚ) + 1 ≤ significand := by exact_mod_cast longer
    have reached : (2 : ℚ) ^ (exponent - 1 + format.precision) ≤ value := by
      refine le_trans ?_ least
      rw [zpow_precision full, two, sub_right_comm, zpow_sub_one₀ (by norm_num)]
      push_cast
      nlinarith
    have := grows (reached.trans_lt exceeds)
    omega
  · have one : quartersBelow format significand exponent = 1 := if_pos ⟨power.symm, larger⟩
    have reached : (2 : ℚ) ^ (exponent - 2 + format.precision) ≤ value := by
      refine le_trans ?_ least
      rw [zpow_precision full, one, ← power, zpow_sub₀ (by norm_num)]
      push_cast
      nlinarith
    have := grows (reached.trans_lt exceeds)
    omega

/-- A fraction in the neighbourhood of a binary number is rounded to it. -/
theorem roundRatio_of_holds {significand numerator denominator : Nat} {exponent : Int}
    (full : 0 < format.precision) (regular : IsRegular format significand exponent)
    (above : 0 < numerator) (below : 0 < denominator)
    (holds : (neighbourhood format significand exponent).Holds
      (fractionValue (numerator, denominator))) :
    format.roundRatio numerator denominator = min format.infinityBits
      ((exponent - format.unitExponent).toNat * format.hiddenBit + significand) := by
  obtain ⟨least, greatest, strict⟩ := bounds_of_holds regular.positive holds
  obtain ⟨fits, exceeds⟩ := format.exponentOf_bounds above below
  unfold BinaryFormat.roundRatio
  rw [if_neg above.ne']
  rcases exponent_of_holds full regular holds fits exceeds with same | ⟨narrow, lower⟩
  · have near : (4 * significand - 2 : ℚ) * 2 ^ (exponent - 2) ≤
        (4 * significand - quartersBelow format significand exponent) * 2 ^ (exponent - 2) := by
      have few : (quartersBelow format significand exponent : ℚ) ≤ 2 := by
        unfold quartersBelow
        split <;> norm_num
      exact mul_le_mul_of_nonneg_right (by linarith) (by positivity)
    dsimp only
    rw [same, roundHalfEven_scaleDown below significand (near.trans least) greatest
      fun odd => ⟨near.trans_lt (strict odd).1, (strict odd).2⟩]
  · obtain ⟨power, larger⟩ : significand = format.hiddenBit ∧ format.unitExponent < exponent := by
      by_contra wide
      unfold quartersBelow at narrow
      rw [if_neg wide] at narrow
      cases narrow
    have half : (2 : ℚ) ^ (exponent - 2) = 2 * 2 ^ (exponent - 1 - 2) := by
      rw [← zpow_one_add₀ (by norm_num)]
      congr 1
      ring
    have reached : max format.unitExponent (format.exponentOf numerator denominator) =
        exponent - 1 := by omega
    have even : 2 * format.hiddenBit % 2 ≠ 1 := by omega
    dsimp only
    rw [reached, roundHalfEven_scaleDown below (2 * format.hiddenBit) ?_ ?_
      fun odd => absurd odd even, power]
    · have steps : (exponent - format.unitExponent).toNat =
          (exponent - 1 - format.unitExponent).toNat + 1 := by omega
      rw [steps]
      ring_nf
    · refine le_trans (le_of_eq ?_) least
      rw [narrow, power, half]
      push_cast
      ring
    · rw [lower, zpow_precision full] at exceeds
      push_cast
      nlinarith [zpow_pos (show (0 : ℚ) < 2 by norm_num) (exponent - 1 - 2)]

/-- The significand and the exponent of a number are regular, and its bits follow from them. -/
theorem regular_of_magnitude (full : 0 < format.precision) {x : Binary format}
    {significand : Nat} {exponent : Int} (finite : x.magnitude = .finite significand exponent)
    (positive : 0 < significand) :
    IsRegular format significand exponent ∧
      (exponent - format.unitExponent).toNat * format.hiddenBit + significand = x.bits := by
  have hidden := hiddenBit_pos format
  have short := two_pow_precision full
  unfold magnitude at finite
  dsimp only at finite
  split at finite
  · rename_i small
    cases finite
    refine ⟨⟨positive, by omega, le_rfl, .inr rfl⟩, ?_⟩
    rw [sub_self, Int.toNat_zero, zero_mul, zero_add]
  · rename_i large
    split at finite
    · cases finite
      have rest := Nat.mod_lt x.bits hidden
      have quotient : 1 ≤ x.bits / format.hiddenBit :=
        (Nat.one_le_div_iff hidden).mpr (Nat.le_of_not_lt large)
      refine ⟨⟨positive, by omega, by omega, .inl (Nat.le_add_right _ _)⟩, ?_⟩
      rw [add_sub_cancel_left, Int.toNat_natCast, ← add_assoc, ← Nat.succ_mul,
        Nat.succ_eq_add_one, Nat.sub_add_cancel quotient]
      exact Nat.div_add_mod' _ _
    · split at finite
      · cases finite
      · cases finite

end Binary

end TaggedConfig
