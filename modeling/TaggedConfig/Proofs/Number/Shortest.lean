import TaggedConfig.Proofs.Number.Rounding

/-!
# Shortest decimals

The shortest decimal that is found for a binary number lies in its neighbourhood, so that it reads
back as the number.  One with seventeen digits is always found, since their grid is finer than the
binary one.
-/

namespace TaggedConfig

namespace Decimal

/-- The number that a decimal stands for. -/
def value (decimal : Decimal) : ℚ := decimal.digits * 10 ^ decimal.exponent

theorem denominator_ratio_pos (decimal : Decimal) : 0 < decimal.ratio.2 :=
  Nat.pow_pos (by norm_num)

theorem fractionValue_ratio (decimal : Decimal) : fractionValue decimal.ratio = decimal.value := by
  have ten : 0 < 10 := by norm_num
  have scaled := fractionValue_scaled ten decimal.digits 1 (-decimal.exponent)
  rw [neg_neg, one_mul, Nat.cast_ofNat] at scaled
  refine Eq.trans scaled ?_
  unfold fractionValue value
  rw [Nat.cast_one, div_one]

theorem lt_pow_digitCount (value : Nat) : value < 10 ^ digitCount value := by
  have positive : 0 < digitCount value := Nat.length_toDigits_pos
  exact (Nat.length_toDigits_le_iff (by norm_num) positive).mp le_rfl

theorem pow_digitCount_le {value : Nat} (positive : 0 < value) :
    10 ^ (digitCount value - 1) ≤ value := by
  by_contra less
  rcases Nat.eq_zero_or_pos (digitCount value - 1) with none | some
  · rw [none] at less
    omega
  · have short := (Nat.length_toDigits_le_iff (by norm_num) some).mpr (Nat.lt_of_not_le less)
    unfold digitCount at some short
    omega

/-- A positive decimal lies between two powers of ten that its point gives. -/
theorem point_bounds {decimal : Decimal} (positive : 0 < decimal.digits) :
    (10 : ℚ) ^ (decimal.point - 1) ≤ decimal.value ∧ decimal.value < 10 ^ decimal.point := by
  have power : (0 : ℚ) < 10 ^ decimal.exponent := by positivity
  have count : 1 ≤ digitCount decimal.digits := Nat.length_toDigits_pos
  unfold value point
  constructor
  · have least : ((10 ^ (digitCount decimal.digits - 1) : Nat) : ℚ) ≤ decimal.digits := by
      exact_mod_cast pow_digitCount_le positive
    have exponents : (digitCount decimal.digits : Int) + decimal.exponent - 1 =
        ((digitCount decimal.digits - 1 : Nat) : Int) + decimal.exponent := by omega
    rw [exponents, zpow_add₀ (by norm_num), zpow_natCast]
    push_cast at least
    exact mul_le_mul_of_nonneg_right least power.le
  · have less : ((decimal.digits : Nat) : ℚ) < ((10 ^ digitCount decimal.digits : Nat) : ℚ) := by
      exact_mod_cast lt_pow_digitCount decimal.digits
    rw [zpow_add₀ (by norm_num), zpow_natCast]
    push_cast at less
    exact mul_lt_mul_of_pos_right less power

end Decimal

namespace Binary

theorem hiddenBit_double : BinaryFormat.double.hiddenBit = 4503599627370496 := rfl

theorem unitExponent_double : BinaryFormat.double.unitExponent = -1074 := rfl

theorem infinityBits_double : BinaryFormat.double.infinityBits = 9218868437227405312 := rfl

/-- What a finite number of the format with 64 bits stands for. -/
structure IsDouble (x : Binary64) (significand : Nat) (exponent : Int) : Prop where
  regular : IsRegular .double significand exponent
  bits : (exponent + 1074).toNat * 4503599627370496 + significand = x.bits
  finite : x.bits < 9218868437227405312

theorem isDouble_of_magnitude {x : Binary64} {significand : Nat} {exponent : Int}
    (finite : x.magnitude = .finite significand exponent) (positive : 0 < significand) :
    IsDouble x significand exponent := by
  obtain ⟨regular, bits⟩ := regular_of_magnitude (by decide) finite positive
  rw [unitExponent_double, hiddenBit_double, sub_neg_eq_add] at bits
  refine ⟨regular, bits, ?_⟩
  unfold magnitude at finite
  dsimp only at finite
  rw [hiddenBit_double, infinityBits_double] at finite
  split at finite
  · omega
  · split at finite
    · assumption
    · split at finite
      · cases finite
      · cases finite

namespace IsDouble

variable {x : Binary64} {significand : Nat} {exponent : Int}

theorem exponent_bounds (number : IsDouble x significand exponent) :
    -1074 ≤ exponent ∧ exponent ≤ 971 := by
  have least := number.regular.least
  have full := number.regular.full
  have bits := number.bits
  have finite := number.finite
  rw [unitExponent_double] at least full
  rw [hiddenBit_double] at full
  omega

/-- The numbers around a number with 64 bits are neither too large nor too small. -/
theorem value_bounds (number : IsDouble x significand exponent) {value : ℚ}
    (holds : (neighbourhood .double significand exponent).Holds value) :
    (10 : ℚ) ^ (-1100 : Int) < value ∧ value < 10 ^ (1100 : Int) := by
  obtain ⟨smallest, largest⟩ := number.exponent_bounds
  obtain ⟨least, greatest, -⟩ := bounds_of_holds number.regular.positive holds
  have short : (significand : ℚ) ≤ 2 ^ 53 := by exact_mod_cast number.regular.short.le
  have positive : (1 : ℚ) ≤ significand := by exact_mod_cast number.regular.positive
  have few : (quartersBelow .double significand exponent : ℚ) ≤ 2 := by
    unfold quartersBelow
    split <;> norm_num
  have tens : (2 : ℚ) ^ (1100 : Int) < 10 ^ (1100 : Int) :=
    zpow_lt_zpow_left₀ (by norm_num) (by norm_num) (by norm_num)
  constructor
  · calc (10 : ℚ) ^ (-1100 : Int) < 2 ^ (-1100 : Int) := by
          rw [zpow_neg, zpow_neg]
          exact inv_strictAnti₀ (by positivity) tens
      _ ≤ 2 ^ (exponent - 2) := zpow_le_zpow_right₀ (by norm_num) (by omega)
      _ = 1 * 2 ^ (exponent - 2) := (one_mul _).symm
      _ ≤ (4 * significand - quartersBelow .double significand exponent) * 2 ^ (exponent - 2) :=
          mul_le_mul_of_nonneg_right (by linarith) (by positivity)
      _ ≤ value := least
  · calc value ≤ (4 * significand + 2) * 2 ^ (exponent - 2) := greatest
      _ ≤ (4 * 2 ^ 53 + 2) * 2 ^ (exponent - 2) :=
          mul_le_mul_of_nonneg_right (by linarith) (by positivity)
      _ ≤ 2 ^ (56 : Int) * 2 ^ (exponent - 2) :=
          mul_le_mul_of_nonneg_right (by norm_num) (by positivity)
      _ = 2 ^ (56 + (exponent - 2)) := (zpow_add₀ (by norm_num) _ _).symm
      _ ≤ 2 ^ (1100 : Int) := zpow_le_zpow_right₀ (by norm_num) (by omega)
      _ < 10 ^ (1100 : Int) := tens

/-- A decimal in the neighbourhood of a number reads back as the number. -/
theorem toBinary_of_holds (number : IsDouble x significand exponent) {decimal : Decimal}
    (some : 0 < decimal.digits)
    (holds : (neighbourhood .double significand exponent).Holds decimal.value) (negative : Bool) :
    decimal.toBinary negative = (⟨negative, x.bits⟩ : Binary64) := by
  obtain ⟨large, small⟩ := number.value_bounds holds
  obtain ⟨least, less⟩ := Decimal.point_bounds some
  have grows {first second : Int} (less : (10 : ℚ) ^ first < 10 ^ second) : first < second :=
    (zpow_lt_zpow_iff_right₀ (by norm_num)).mp less
  have notHigh := grows (least.trans_lt small)
  have notLow := grows (large.trans less)
  have numerator : 0 < decimal.ratio.1 := Nat.mul_pos some (Nat.pow_pos (by norm_num))
  have reach : ((Nat.pow 2 BinaryFormat.double.exponentBits : Nat) : Int) = 2048 := rfl
  rw [← decimal.fractionValue_ratio] at holds
  unfold Decimal.toBinary
  dsimp only
  rw [reach, if_neg some.ne', if_neg (by omega), if_neg (by omega)]
  unfold ofRatio
  rw [roundRatio_of_holds (by decide) number.regular numerator decimal.denominator_ratio_pos holds,
    unitExponent_double, hiddenBit_double, infinityBits_double, sub_neg_eq_add, number.bits,
    min_eq_right number.finite.le]

end IsDouble

theorem ratioLe_iff {first second : Nat × Nat} (positive : 0 < first.2) (alsoPositive : 0 < second.2) :
    Decimal.ratioLe first second = true ↔ fractionValue first ≤ fractionValue second := by
  unfold Decimal.ratioLe fractionValue
  rw [decide_eq_true_eq, div_le_div_iff₀ (Nat.cast_pos.mpr positive) (Nat.cast_pos.mpr alsoPositive)]
  exact_mod_cast Iff.rfl

theorem ratioLt_iff {first second : Nat × Nat} (positive : 0 < first.2) (alsoPositive : 0 < second.2) :
    Decimal.ratioLt first second = true ↔ fractionValue first < fractionValue second := by
  unfold Decimal.ratioLt fractionValue
  rw [decide_eq_true_eq, div_lt_div_iff₀ (Nat.cast_pos.mpr positive) (Nat.cast_pos.mpr alsoPositive)]
  exact_mod_cast Iff.rfl

variable {format : BinaryFormat} {significand : Nat} {exponent : Int}

/-- Whether a decimal lies in a neighbourhood is computed exactly. -/
theorem contains_iff (decimal : Decimal) :
    (neighbourhood format significand exponent).contains decimal = true ↔
      (neighbourhood format significand exponent).Holds decimal.value := by
  have low : 0 < (neighbourhood format significand exponent).low.2 :=
    BinaryFormat.denominator_scaleDown_pos Nat.one_pos _ _
  have high : 0 < (neighbourhood format significand exponent).high.2 :=
    BinaryFormat.denominator_scaleDown_pos Nat.one_pos _ _
  have ratio := decimal.denominator_ratio_pos
  unfold Neighbourhood.contains Neighbourhood.Holds
  split
  · rw [Bool.and_eq_true, ratioLe_iff low ratio, ratioLe_iff ratio high,
      decimal.fractionValue_ratio]
  · rw [Bool.and_eq_true, ratioLt_iff low ratio, ratioLt_iff ratio high,
      decimal.fractionValue_ratio]

theorem contains_of_withDigits? {around : Neighbourhood} {tie : Tie} {count : Nat}
    {decimal : Decimal} (found : around.withDigits? tie count = some decimal) :
    around.contains decimal = true := by
  unfold Neighbourhood.withDigits? at found
  dsimp only at found
  split at found
  · cases found
    split
    · assumption
    · assumption
  · cases found
    assumption
  · cases found
    assumption
  · cases found

/-- Trailing zeros can be taken away. -/
theorem value_trimZeros (fuel : Nat) (decimal : Decimal) :
    (Decimal.trimZeros fuel decimal).value = decimal.value := by
  induction fuel generalizing decimal with
  | zero => rfl
  | succ fuel ih =>
      unfold Decimal.trimZeros
      split
      · rename_i round
        rw [ih]
        have whole := Nat.div_mul_cancel (Nat.dvd_of_mod_eq_zero round)
        unfold Decimal.value
        rw [zpow_add_one₀ (by norm_num), mul_comm ((10 : ℚ) ^ decimal.exponent), ← mul_assoc]
        congr 1
        exact_mod_cast whole
      · rfl

theorem digits_pos_of_value {decimal : Decimal} (positive : 0 < decimal.value) :
    0 < decimal.digits := by
  rcases Nat.eq_zero_or_pos decimal.digits with none | some
  · unfold Decimal.value at positive
    rw [none, Nat.cast_zero, zero_mul] at positive
    exact absurd positive (lt_irrefl 0)
  · exact some

/-- A number of digits for which a decimal is found is enough for the search. -/
theorem shortestFrom_contains (around : Neighbourhood) (tie : Tie) {fuel first : Nat}
    (enough : ∃ further < fuel, around.withDigits? tie (first + further) ≠ none) :
    ∃ decimal, around.contains decimal = true ∧
      (around.shortestFrom tie fuel first).value = decimal.value := by
  induction fuel generalizing first with
  | zero =>
      obtain ⟨further, less, -⟩ := enough
      cases less
  | succ fuel ih =>
      unfold Neighbourhood.shortestFrom
      cases found : around.withDigits? tie first with
      | some decimal => exact ⟨decimal, contains_of_withDigits? found, value_trimZeros _ _⟩
      | none =>
          obtain ⟨further, less, some⟩ := enough
          cases further with
          | zero => exact absurd found some
          | succ further =>
              refine ih ⟨further, Nat.lt_of_succ_lt_succ less, ?_⟩
              rw [Nat.add_assoc, Nat.add_comm 1]
              exact some

/-- The point of a fraction is not too far to the right. -/
theorem pointOfRatio_le {value : Nat × Nat} (above : 0 < value.1) (below : 0 < value.2) :
    (10 : ℚ) ^ (Decimal.pointOfRatio value - 1) ≤ fractionValue value := by
  obtain ⟨numerator, denominator⟩ := value
  have numeratorPositive : (0 : ℚ) < numerator := Nat.cast_pos.mpr above
  have denominatorPositive : (0 : ℚ) < denominator := Nat.cast_pos.mpr below
  unfold Decimal.pointOfRatio
  dsimp only at above below ⊢
  split
  · rename_i whole
    have quotient : 0 < numerator / denominator := Nat.div_pos whole below
    have count : 1 ≤ Decimal.digitCount (numerator / denominator) := Nat.length_toDigits_pos
    have least := Decimal.pow_digitCount_le quotient
    rw [← Nat.cast_one, ← Nat.cast_sub count, zpow_natCast]
    calc (10 : ℚ) ^ (Decimal.digitCount (numerator / denominator) - 1)
        ≤ ((numerator / denominator : Nat) : ℚ) := by exact_mod_cast least
      _ ≤ fractionValue (numerator, denominator) := Nat.cast_div_le
  · split
    · rename_i reached
      rw [ratioLe_iff (Decimal.denominator_ratio_pos _) below, Decimal.fractionValue_ratio] at reached
      unfold Decimal.value at reached
      rw [Nat.cast_one, one_mul] at reached
      rw [add_sub_cancel_right]
      exact reached
    · have less := Decimal.lt_pow_digitCount (denominator / numerator)
      have within : denominator < 10 ^ Decimal.digitCount (denominator / numerator) * numerator :=
        (Nat.div_lt_iff_lt_mul above).mp less
      rw [sub_sub_cancel_left, zpow_neg, zpow_natCast]
      unfold fractionValue
      rw [inv_le_comm₀ (by positivity) (by positivity), inv_div, div_le_iff₀ numeratorPositive]
      exact_mod_cast within.le

/-- Quotients next to a scaled fraction are decimals next to its value. -/
theorem decimals_around {value : Nat × Nat} (below : 0 < value.2) (exponent : Int) :
    let quotient := value.1 * Nat.pow 10 (-exponent).toNat / (value.2 * Nat.pow 10 exponent.toNat)
    (⟨quotient, exponent⟩ : Decimal).value ≤ fractionValue value ∧
      fractionValue value < (⟨quotient + 1, exponent⟩ : Decimal).value := by
  have ten : 0 < 10 := by norm_num
  have scaled := fractionValue_scaled ten value.1 value.2 exponent
  have unit : 0 < value.2 * Nat.pow 10 exponent.toNat := Nat.mul_pos below (Nat.pow_pos ten)
  have power : (0 : ℚ) < 10 ^ exponent := by positivity
  have whole : fractionValue value = fractionValue (value.1 * Nat.pow 10 (-exponent).toNat,
      value.2 * Nat.pow 10 exponent.toNat) * 10 ^ exponent := by
    rw [scaled, Nat.cast_ofNat, mul_assoc, ← zpow_add₀ (by norm_num), neg_add_cancel, zpow_zero,
      mul_one]
  intro quotient
  rw [whole]
  constructor
  · exact mul_le_mul_of_nonneg_right Nat.cast_div_le power.le
  · refine mul_lt_mul_of_pos_right ?_ power
    unfold fractionValue
    rw [div_lt_iff₀ (Nat.cast_pos.mpr unit)]
    exact_mod_cast Nat.lt_mul_of_div_lt (Nat.lt_succ_self quotient) unit

/-- A grid that is finer than a neighbourhood is wide has a point in it. -/
theorem holds_or_holds {around : Neighbourhood} {first step value : ℚ} (notAbove : first ≤ value)
    (notBelow : value < first + step) (low : fractionValue around.low < value)
    (high : value < fractionValue around.high)
    (fine : step < fractionValue around.high - fractionValue around.low) :
    around.Holds first ∨ around.Holds (first + step) := by
  unfold Neighbourhood.Holds
  by_cases inside : fractionValue around.low < first
  · left
    split
    · exact ⟨inside.le, by linarith⟩
    · exact ⟨inside, by linarith⟩
  · right
    split
    · exact ⟨by linarith, by linarith⟩
    · exact ⟨by linarith, by linarith⟩

/-- The grid of seventeen digits is finer than the neighbourhoods of numbers with 64 bits. -/
theorem grid_lt {x : Binary64} (number : IsDouble x significand exponent) {point : Int}
    (least : (10 : ℚ) ^ (point - 1) ≤
      fractionValue (neighbourhood .double significand exponent).value) :
    (10 : ℚ) ^ (point - 17) < fractionValue (neighbourhood .double significand exponent).high -
      fractionValue (neighbourhood .double significand exponent).low := by
  have unit : (0 : ℚ) < 2 ^ (exponent - 2) := by positivity
  have short : (significand : ℚ) < 2 ^ 53 := by exact_mod_cast number.regular.short
  have finer : (10 : ℚ) ^ (point - 1) = 10 ^ (point - 17) * 10 ^ 16 := by
    rw [← zpow_natCast, ← zpow_add₀ (by norm_num)]
    congr 1
    push_cast
    ring
  rw [value_neighbourhood, finer] at least
  rw [high_neighbourhood, low_neighbourhood number.regular.positive]
  unfold quartersBelow
  split
  · rename_i narrow
    rw [narrow.1, hiddenBit_double] at least ⊢
    push_cast at least ⊢
    nlinarith
  · push_cast
    nlinarith

/-- Next to a number with 64 bits there is a decimal with seventeen digits that rounds to it. -/
theorem withDigits?_seventeen {x : Binary64} (number : IsDouble x significand exponent) (tie : Tie) :
    (neighbourhood .double significand exponent).withDigits? tie 17 ≠ none := by
  have positive := number.regular.positive
  have below : 0 < (neighbourhood .double significand exponent).value.2 :=
    BinaryFormat.denominator_scaleDown_pos Nat.one_pos _ _
  have above : 0 < (neighbourhood .double significand exponent).value.1 :=
    Nat.mul_pos (by omega) (Nat.pow_pos (by norm_num))
  have least := pointOfRatio_le above below
  obtain ⟨notAbove, notBelow⟩ := decimals_around below
    (Decimal.pointOfRatio (neighbourhood .double significand exponent).value - 17)
  intro missing
  unfold Neighbourhood.withDigits? at missing
  dsimp only at missing notAbove notBelow
  have step (digits : Nat) (exponent : Int) : (⟨digits + 1, exponent⟩ : Decimal).value =
      (⟨digits, exponent⟩ : Decimal).value + 10 ^ exponent := by
    unfold Decimal.value
    push_cast
    ring
  rw [step] at notBelow
  have neither (decimal : Decimal)
      (refused : (neighbourhood .double significand exponent).contains decimal = false) :
      ¬(neighbourhood .double significand exponent).Holds decimal.value := by
    rw [← contains_iff, refused]
    exact Bool.false_ne_true
  split at missing
  · cases missing
  · cases missing
  · cases missing
  · rename_i refusedBelow refusedAbove
    have outsideBelow := neither _ refusedBelow
    have outsideAbove := neither _ refusedAbove
    rw [step] at outsideAbove
    have inside := holds_or_holds notAbove notBelow ?_ ?_ (grid_lt number least)
    · exact inside.elim outsideBelow outsideAbove
    · rw [low_neighbourhood positive, value_neighbourhood]
      refine mul_lt_mul_of_pos_right ?_ (by positivity)
      unfold quartersBelow
      split <;> norm_num
    · rw [high_neighbourhood, value_neighbourhood]
      exact mul_lt_mul_of_pos_right (by linarith) (by positivity)

/-- The shortest decimal of a number with 64 bits lies in its neighbourhood. -/
theorem shortest_holds {x : Binary64} (number : IsDouble x significand exponent) (tie : Tie) :
    (neighbourhood .double significand exponent).Holds
      (shortest .double tie significand exponent).value := by
  unfold shortest
  rw [if_neg number.regular.positive.ne']
  have enough : ∃ further < sufficientDigits .double,
      (neighbourhood .double significand exponent).withDigits? tie (1 + further) ≠ none :=
    ⟨16, by decide, withDigits?_seventeen number tie⟩
  obtain ⟨decimal, inside, same⟩ := shortestFrom_contains _ tie enough
  rw [same]
  exact (contains_iff decimal).mp inside

end Binary

end TaggedConfig
