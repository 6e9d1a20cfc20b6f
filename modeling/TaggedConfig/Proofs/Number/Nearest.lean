import TaggedConfig.Proofs.Number.Shortest

/-!
# The nearest number

No finite number is nearer to a decimal than the one as which it is read.  In the unit of the result
this is rounding to the nearest integer, and numbers with smaller units lie below all significands of
full length.
-/

namespace TaggedConfig

namespace BinaryFormat

theorem roundHalfEven_error (numerator : Nat) {denominator : Nat} (positive : 0 < denominator) :
    |fractionValue (numerator, denominator) - roundHalfEven numerator denominator| ≤ 1 / 2 := by
  have divisor : (0 : ℚ) < denominator := Nat.cast_pos.mpr positive
  have split : fractionValue (numerator, denominator) =
      (numerator / denominator : Nat) + (numerator % denominator : Nat) / denominator := by
    have parts := Nat.div_add_mod numerator denominator
    unfold fractionValue
    dsimp only
    rw [div_eq_iff divisor.ne', add_mul, div_mul_cancel₀ _ divisor.ne']
    exact_mod_cast (by rw [mul_comm]; exact parts.symm)
  have small := Nat.mod_lt numerator positive
  rw [split, abs_le]
  unfold roundHalfEven
  dsimp only
  generalize numerator / denominator = quotient
  generalize numerator % denominator = rest at small ⊢
  split_ifs with up
  · have half : denominator ≤ 2 * rest := by
      simp only [Bool.or_eq_true, Bool.and_eq_true, decide_eq_true_eq, beq_iff_eq] at up
      omega
    have least : (1 / 2 : ℚ) ≤ rest / denominator := by
      rw [le_div_iff₀ divisor]
      have : (denominator : ℚ) ≤ 2 * rest := by exact_mod_cast half
      linarith
    have greatest : (rest : ℚ) / denominator ≤ 1 := by
      rw [div_le_one₀ divisor]
      exact_mod_cast small.le
    push_cast
    constructor
    · linarith
    · linarith
  · have half : 2 * rest ≤ denominator := by
      simp only [Bool.or_eq_true, Bool.and_eq_true, decide_eq_true_eq, beq_iff_eq] at up
      omega
    have least : (0 : ℚ) ≤ rest / denominator := by positivity
    have greatest : (rest : ℚ) / denominator ≤ 1 / 2 := by
      rw [div_le_iff₀ divisor]
      have : (2 * rest : ℚ) ≤ denominator := by exact_mod_cast half
      linarith
    constructor
    · linarith
    · linarith

theorem roundHalfEven_nearest (numerator : Nat) {denominator : Nat} (positive : 0 < denominator)
    (other : Nat) :
    |fractionValue (numerator, denominator) - roundHalfEven numerator denominator| ≤
      |fractionValue (numerator, denominator) - other| := by
  have error := roundHalfEven_error numerator positive
  generalize roundHalfEven numerator denominator = nearest at error ⊢
  generalize fractionValue (numerator, denominator) = value at error ⊢
  rcases lt_trichotomy other nearest with below | same | above
  · have apart : (other : ℚ) + 1 ≤ nearest := by exact_mod_cast below
    have far : 1 / 2 ≤ value - other := by linarith [(abs_le.mp error).1]
    exact error.trans (far.trans (le_abs_self _))
  · rw [same]
  · have apart : (nearest : ℚ) + 1 ≤ other := by exact_mod_cast above
    have far : 1 / 2 ≤ -(value - other) := by linarith [(abs_le.mp error).2]
    exact error.trans (far.trans (neg_le_abs _))

end BinaryFormat

def Magnitude.value : Magnitude → ℚ
  | .finite significand exponent => significand * 2 ^ exponent
  | .infinite | .nan => 0

theorem Magnitude.value_nonneg (magnitude : Magnitude) : 0 ≤ magnitude.value := by
  cases magnitude with
  | finite significand exponent =>
      unfold value
      positivity
  | infinite => exact le_rfl
  | nan => exact le_rfl

namespace Binary

variable {format : BinaryFormat}

theorem exists_magnitude {x : Binary format} (finite : x.isFinite = true) :
    ∃ significand exponent, x.magnitude = .finite significand exponent := by
  unfold isFinite at finite
  unfold magnitude
  dsimp only
  split
  · exact ⟨_, _, rfl⟩
  · rw [if_pos (of_decide_eq_true finite)]
    exact ⟨_, _, rfl⟩

/-- A significand in some unit, which may have been rounded up to the next power of two. -/
theorem value_of_bits {x : Binary format} {steps significand : Nat} (finite : x.isFinite = true)
    (bits : x.bits = steps * format.hiddenBit + significand)
    (short : significand ≤ 2 * format.hiddenBit)
    (full : steps = 0 ∨ format.hiddenBit ≤ significand) :
    x.magnitude.value = significand * 2 ^ (format.unitExponent + steps) := by
  have hidden := hiddenBit_pos format
  unfold isFinite at finite
  unfold magnitude
  dsimp only
  by_cases small : x.bits < format.hiddenBit
  · have none : steps = 0 := by
      rcases full with none | full
      · exact none
      · nlinarith
    subst none
    rw [if_pos small, bits, Nat.zero_mul, Nat.zero_add]
    simp [Magnitude.value]
  · rw [if_neg small, if_pos (of_decide_eq_true finite)]
    have long : format.hiddenBit ≤ significand := by
      rcases full with none | full
      · rw [none, Nat.zero_mul, Nat.zero_add] at bits
        omega
      · exact full
    rcases Nat.lt_or_eq_of_le short with less | power
    · obtain ⟨quotient, rest⟩ : x.bits / format.hiddenBit = steps + 1 ∧
          x.bits % format.hiddenBit = significand - format.hiddenBit := by
        rw [Nat.div_mod_unique hidden, bits]
        constructor
        · rw [Nat.mul_add, Nat.mul_comm steps]
          omega
        · omega
      rw [quotient, rest, Nat.add_sub_cancel' long]
      rfl
    · obtain ⟨quotient, rest⟩ : x.bits / format.hiddenBit = steps + 2 ∧
          x.bits % format.hiddenBit = 0 := by
        rw [Nat.div_mod_unique hidden, bits, power]
        constructor
        · ring
        · exact hidden
      have next : format.unitExponent + ((steps + 2 - 1 : Nat) : Int) =
          format.unitExponent + steps + 1 := by
        push_cast
        ring
      rw [quotient, rest, power, next, Nat.add_zero, Magnitude.value, zpow_add_one₀ (by norm_num)]
      push_cast
      ring

theorem zpow_add_precision_sub_one (full : 0 < format.precision) (exponent : Int) :
    (2 : ℚ) ^ (exponent + format.precision - 1) = format.hiddenBit * 2 ^ exponent := by
  rw [zpow_sub_one₀ (by norm_num), zpow_add_precision full]
  ring

/-- A fraction is rounded to an integer in the unit of the result, which is the smallest one unless
the fraction is as large as a significand of full length. -/
theorem roundRatio_scaled (full : 0 < format.precision) {numerator denominator : Nat}
    (above : 0 < numerator) (below : 0 < denominator) {x : Binary format}
    (bits : x.bits = format.roundRatio numerator denominator) (finite : x.isFinite = true) :
    ∃ exponent,
      (∀ other : Nat, |fractionValue (numerator, denominator) - x.magnitude.value| ≤
        |fractionValue (numerator, denominator) - other * 2 ^ exponent|) ∧
      (exponent = format.unitExponent ∨
        format.hiddenBit * 2 ^ exponent ≤ fractionValue (numerator, denominator)) := by
  obtain ⟨fits, exceeds⟩ := format.exponentOf_bounds above below
  unfold BinaryFormat.roundRatio at bits
  rw [if_neg above.ne'] at bits
  dsimp only at bits
  generalize reached : max format.unitExponent (format.exponentOf numerator denominator) = exponent
    at bits
  have unit : (0 : ℚ) < 2 ^ exponent := by positivity
  have scaled := BinaryFormat.fractionValue_scaleDown numerator denominator exponent
  have positive := BinaryFormat.denominator_scaleDown_pos below numerator exponent
  generalize BinaryFormat.scaleDown numerator denominator exponent = fraction at bits scaled positive
  generalize fractionValue (numerator, denominator) = value at fits exceeds scaled ⊢
  have same : value = fractionValue fraction * 2 ^ exponent := by
    rw [scaled, mul_assoc, ← zpow_add₀ (by norm_num), neg_add_cancel, zpow_zero, mul_one]
  have error := abs_le.mp (BinaryFormat.roundHalfEven_error fraction.1 positive)
  have nearest := BinaryFormat.roundHalfEven_nearest fraction.1 positive
  rw [Prod.mk.eta] at error
  simp only [Prod.mk.eta] at nearest
  generalize BinaryFormat.roundHalfEven fraction.1 fraction.2 = significand at bits error nearest
  have least : exponent = format.unitExponent ∨ format.hiddenBit * 2 ^ exponent ≤ value := by
    by_cases smallest : exponent = format.unitExponent
    · exact .inl smallest
    · have own : format.exponentOf numerator denominator = exponent := by omega
      rw [own, zpow_add_precision_sub_one full] at fits
      exact .inr fits
  have short : significand ≤ 2 * format.hiddenBit := by
    have less : value < 2 * format.hiddenBit * 2 ^ exponent := by
      rw [← zpow_add_precision full]
      exact exceeds.trans_le (zpow_le_zpow_right₀ (by norm_num) (by omega))
    rw [same] at less
    have : (significand : ℚ) < 2 * format.hiddenBit + 1 := by
      linarith [lt_of_mul_lt_mul_right less unit.le]
    exact Nat.lt_succ_iff.mp (by exact_mod_cast this)
  have long : (exponent - format.unitExponent).toNat = 0 ∨ format.hiddenBit ≤ significand := by
    rcases least with smallest | reaches
    · rw [smallest, sub_self]
      exact .inl rfl
    · rw [same] at reaches
      have : (format.hiddenBit : ℚ) < significand + 1 := by
        linarith [le_of_mul_le_mul_right reaches unit]
      exact .inr (Nat.lt_succ_iff.mp (by exact_mod_cast this))
  have number : x.magnitude.value = significand * 2 ^ exponent := by
    have limit : x.bits < format.infinityBits := of_decide_eq_true finite
    rw [value_of_bits finite (by omega) short long]
    congr 2
    omega
  refine ⟨exponent, fun other => ?_, least⟩
  rw [number, same, ← sub_mul, ← sub_mul, abs_mul, abs_mul]
  exact mul_le_mul_of_nonneg_right (nearest other) (abs_nonneg _)

/-- No finite number is nearer to a fraction than the one to which it is rounded. -/
theorem roundRatio_nearest (full : 0 < format.precision) {numerator denominator : Nat}
    (above : 0 < numerator) (below : 0 < denominator) {x : Binary format}
    (bits : x.bits = format.roundRatio numerator denominator) (finite : x.isFinite = true)
    {significand : Nat} {exponent : Int} (short : significand < 2 ^ format.precision)
    (least : format.unitExponent ≤ exponent) :
    |fractionValue (numerator, denominator) - x.magnitude.value| ≤
      |fractionValue (numerator, denominator) - significand * 2 ^ exponent| := by
  obtain ⟨unit, nearest, reaches⟩ := roundRatio_scaled full above below bits finite
  rcases le_or_gt unit exponent with coarse | fine
  · have steps := nearest (significand * 2 ^ (exponent - unit).toNat)
    have whole : ((exponent - unit).toNat : Int) + unit = exponent := by omega
    rw [Nat.cast_mul, Nat.cast_pow, Nat.cast_ofNat, mul_assoc, ← zpow_natCast,
      ← zpow_add₀ (by norm_num), whole] at steps
    exact steps
  · have large : format.hiddenBit * 2 ^ unit ≤ fractionValue (numerator, denominator) := by
      rcases reaches with smallest | large
      · omega
      · exact large
    have less : (significand : ℚ) * 2 ^ exponent ≤ format.hiddenBit * 2 ^ unit := by
      have half : (2 : ℚ) * 2 ^ exponent ≤ 2 ^ unit := by
        rw [← zpow_one_add₀ (by norm_num)]
        exact zpow_le_zpow_right₀ (by norm_num) (by omega)
      have fits : (significand : ℚ) ≤ 2 * format.hiddenBit := by
        rw [two_pow_precision full] at short
        exact_mod_cast short.le
      calc (significand : ℚ) * 2 ^ exponent ≤ 2 * format.hiddenBit * 2 ^ exponent :=
            mul_le_mul_of_nonneg_right fits (by positivity)
        _ = format.hiddenBit * (2 * 2 ^ exponent) := by ring
        _ ≤ format.hiddenBit * 2 ^ unit := mul_le_mul_of_nonneg_left half (by positivity)
    calc |fractionValue (numerator, denominator) - x.magnitude.value|
        ≤ |fractionValue (numerator, denominator) - format.hiddenBit * 2 ^ unit| := nearest _
      _ = fractionValue (numerator, denominator) - format.hiddenBit * 2 ^ unit :=
          abs_of_nonneg (by linarith)
      _ ≤ fractionValue (numerator, denominator) - significand * 2 ^ exponent := by linarith
      _ ≤ |fractionValue (numerator, denominator) - significand * 2 ^ exponent| := le_abs_self _

/-- What a number stands for, if it is finite. -/
def value (x : Binary format) : ℚ :=
  if x.negative then -x.magnitude.value else x.magnitude.value

/-- A finite number is nearer to a value than, or as near as, every other one. -/
def IsNearest (x : Binary format) (exact : ℚ) : Prop :=
  x.isFinite = true ∧
    ∀ other : Binary format, other.isFinite = true → |exact - x.value| ≤ |exact - other.value|

/-- A finite number has a short significand in a unit that is not too small. -/
theorem exists_significand (full : 0 < format.precision) {x : Binary format}
    (finite : x.isFinite = true) :
    ∃ (significand : Nat) (exponent : Int), significand < 2 ^ format.precision ∧
      format.unitExponent ≤ exponent ∧ x.magnitude.value = significand * 2 ^ exponent := by
  obtain ⟨significand, exponent, magnitude⟩ := exists_magnitude finite
  rcases Nat.eq_zero_or_pos significand with rfl | positive
  · exact ⟨0, format.unitExponent, Nat.two_pow_pos _, le_rfl, by simp [magnitude, Magnitude.value]⟩
  · obtain ⟨regular, -⟩ := regular_of_magnitude full magnitude positive
    exact ⟨significand, exponent, regular.short, regular.least, by rw [magnitude, Magnitude.value]⟩

theorem value_zero (negative : Bool) :
    (Binary.zero negative : Binary64).magnitude.value = 0 := by
  have magnitude : (Binary.zero negative : Binary64).magnitude = .finite 0 (-1074) := rfl
  rw [magnitude, Magnitude.value, Nat.cast_zero, zero_mul]

end Binary

namespace Decimal

theorem value_nonneg (decimal : Decimal) : 0 ≤ decimal.value := by
  unfold value
  positivity

/-- What is far smaller than the smallest number is nearest to zero. -/
theorem zero_nearest {decimal : Decimal} (some : 0 < decimal.digits) (tiny : decimal.point < -2048)
    {other : Binary64} (finite : other.isFinite = true) :
    decimal.value ≤ |decimal.value - other.magnitude.value| := by
  obtain ⟨significand, exponent, -, least, same⟩ := Binary.exists_significand (by decide) finite
  rw [Binary.unitExponent_double] at least
  rcases Nat.eq_zero_or_pos significand with rfl | positive
  · rw [same, Nat.cast_zero, zero_mul, sub_zero]
    exact le_abs_self _
  · have small : 2 * decimal.value ≤ other.magnitude.value := by
      have one : (1 : ℚ) ≤ significand := Nat.one_le_cast.mpr positive
      calc 2 * decimal.value ≤ 2 * 10 ^ decimal.point :=
            mul_le_mul_of_nonneg_left (point_bounds some).2.le (by norm_num)
        _ ≤ 2 * 10 ^ (-2048 : Int) :=
            mul_le_mul_of_nonneg_left (zpow_le_zpow_right₀ (by norm_num) tiny.le) (by norm_num)
        _ ≤ 2 * 2 ^ (-2048 : Int) := by
            refine mul_le_mul_of_nonneg_left ?_ (by norm_num)
            rw [zpow_neg, zpow_neg]
            exact inv_anti₀ (by positivity)
              (zpow_le_zpow_left₀ (by norm_num) (by norm_num) (by norm_num))
        _ = 2 ^ (-2047 : Int) := by
            rw [← zpow_one_add₀ (by norm_num)]
            norm_num
        _ ≤ 2 ^ exponent := zpow_le_zpow_right₀ (by norm_num) (by omega)
        _ ≤ significand * 2 ^ exponent := le_mul_of_one_le_left (by positivity) one
        _ = other.magnitude.value := same.symm
    rw [abs_sub_comm]
    exact le_trans (by linarith) (le_abs_self _)

theorem negative_toBinary (decimal : Decimal) (negative : Bool) :
    (decimal.toBinary negative : Binary64).negative = negative := by
  unfold toBinary
  dsimp only
  split_ifs
  all_goals rfl

/-- Signs apart, no finite number is nearer to a decimal than the one as which it is read. -/
theorem magnitude_toBinary_nearest {decimal : Decimal} {negative : Bool} {x other : Binary64}
    (read : decimal.toBinary negative = x) (finite : x.isFinite = true)
    (otherFinite : other.isFinite = true) :
    |decimal.value - x.magnitude.value| ≤ |decimal.value - other.magnitude.value| := by
  have reach : ((Nat.pow 2 BinaryFormat.double.exponentBits : Nat) : Int) = 2048 := rfl
  unfold toBinary at read
  dsimp only at read
  rw [reach] at read
  split_ifs at read with none high low
  · have nothing : decimal.value = 0 := by simp [value, none]
    rw [← read, Binary.value_zero, nothing, sub_zero, abs_zero]
    exact abs_nonneg _
  · subst read
    cases finite
  · rw [← read, Binary.value_zero, sub_zero, abs_of_nonneg decimal.value_nonneg]
    exact zero_nearest (Nat.pos_of_ne_zero none) low otherFinite
  · obtain ⟨significand, exponent, short, least, same⟩ :=
      Binary.exists_significand (by decide) otherFinite
    have above : 0 < decimal.ratio.1 :=
      Nat.mul_pos (Nat.pos_of_ne_zero none) (Nat.pow_pos (by norm_num))
    have bits : x.bits = BinaryFormat.double.roundRatio decimal.ratio.1 decimal.ratio.2 := by
      rw [← read]
      rfl
    have nearest := Binary.roundRatio_nearest (by decide) above decimal.denominator_ratio_pos bits
      finite short least
    rw [Prod.mk.eta, fractionValue_ratio] at nearest
    rw [same]
    exact nearest

/-- A decimal with a sign is read as the finite number that is nearest to it. -/
theorem toBinary_isNearest {decimal : Decimal} {negative : Bool} {x : Binary64}
    (read : decimal.toBinary negative = x) (finite : x.isFinite = true) :
    x.IsNearest (if negative then -decimal.value else decimal.value) := by
  refine ⟨finite, fun other otherFinite => ?_⟩
  have sign : x.negative = negative := read ▸ negative_toBinary decimal negative
  have near := magnitude_toBinary_nearest read finite otherFinite
  have zeroFinite : (Binary.zero false : Binary64).isFinite = true := by decide
  have nearZero := magnitude_toBinary_nearest read finite zeroFinite
  rw [Binary.value_zero, sub_zero, abs_of_nonneg decimal.value_nonneg] at nearZero
  have otherSide : |decimal.value - x.magnitude.value| ≤ |decimal.value + other.magnitude.value| :=
    calc |decimal.value - x.magnitude.value| ≤ decimal.value := nearZero
      _ ≤ decimal.value + other.magnitude.value :=
          le_add_of_nonneg_right other.magnitude.value_nonneg
      _ ≤ |decimal.value + other.magnitude.value| := le_abs_self _
  unfold Binary.value
  rw [sign]
  cases negative with
  | false =>
      cases other.negative with
      | false => exact near
      | true =>
          rw [if_pos rfl, sub_neg_eq_add]
          exact otherSide
  | true =>
      have flipped (second : ℚ) : |-decimal.value - second| = |decimal.value + second| := by
        rw [← abs_neg]
        congr 1
        ring
      rw [if_pos rfl, if_pos rfl, flipped, flipped, ← sub_eq_add_neg]
      cases other.negative with
      | false => exact otherSide
      | true =>
          rw [if_pos rfl, ← sub_eq_add_neg]
          exact near

end Decimal

end TaggedConfig
