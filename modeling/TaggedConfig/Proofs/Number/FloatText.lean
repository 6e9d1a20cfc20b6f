import TaggedConfig.Proofs.Number.Digits
import TaggedConfig.Proofs.Number.Shortest

/-!
# Texts of numbers

The text of an integer reads back as the integer.  The text of a decimal reads back as a decimal with
the same value, so that the shortest decimal of a binary number leads back to it.
-/

namespace TaggedConfig

theorem int64?_toInt (value : Int64) : int64? value.toInt = some value := by
  have least : leastInteger ≤ value.toInt := value.le_toInt
  have greatest : value.toInt ≤ greatestInteger := Int.le_of_lt_add_one value.toInt_lt
  unfold int64?
  rw [if_pos ⟨least, greatest⟩, Int64.ofInt_toInt]

theorem int64?_eq_some_iff {value : Int} {stored : Int64} :
    int64? value = some stored ↔ stored.toInt = value := by
  constructor
  · intro found
    unfold int64? at found
    split at found
    · rename_i fits
      cases found
      exact Int64.toInt_ofInt_of_le fits.1 (Int.lt_add_one_of_le fits.2)
    · cases found
  · rintro rfl
    exact int64?_toInt stored

theorem natInBase?_of_ne_nil {base : Nat} {text : List Char} (some : text ≠ []) :
    natInBase? base text = digitsFrom? base 0 text := by
  unfold natInBase?
  rw [if_neg (by simpa using some)]

theorem splitSign_of_isDigit {text : List Char} (some : text ≠ [])
    (digits : ∀ c ∈ text, c.isDigit = true) : splitSign text = (false, text) := by
  cases text with
  | nil => contradiction
  | cons c rest =>
      have digit := digits c List.mem_cons_self
      unfold splitSign
      split
      · rename_i same
        cases same
        cases digit
      · rename_i same
        cases same
        cases digit
      · rfl

namespace Decimal

def EndsDigits (text : List Char) : Prop := ∀ c ∈ text.head?, c.isDigit = false

theorem takeWhile_digits {digits rest : List Char} (all : ∀ c ∈ digits, c.isDigit = true)
    (ends : EndsDigits rest) : (digits ++ rest).takeWhile Char.isDigit = digits := by
  rw [List.takeWhile_append_of_pos all]
  cases rest with
  | nil => simp
  | cons c rest => rw [List.takeWhile_cons_of_neg (by simp [ends c rfl]), List.append_nil]

theorem dropWhile_digits {digits rest : List Char} (all : ∀ c ∈ digits, c.isDigit = true)
    (ends : EndsDigits rest) : (digits ++ rest).dropWhile Char.isDigit = rest := by
  rw [List.dropWhile_append_of_pos all]
  cases rest with
  | nil => rfl
  | cons c rest => exact List.dropWhile_cons_of_neg (by simp [ends c rfl])

theorem parse?_point {whole fraction tail : List Char} (wholeDigits : ∀ c ∈ whole, c.isDigit = true)
    (fractionDigits : ∀ c ∈ fraction, c.isDigit = true) (ends : EndsDigits tail) {digits : Nat}
    {exponent : Int} (read : natInBase? 10 (whole ++ fraction) = some digits)
    (readTail : exponent? tail = some exponent) :
    parse? (whole ++ '.' :: (fraction ++ tail)) =
      some ⟨digits, exponent - fraction.length⟩ := by
  have pointEnds : EndsDigits ('.' :: (fraction ++ tail)) := by
    intro c found
    cases found
    rfl
  unfold parse?
  rw [takeWhile_digits wholeDigits pointEnds, dropWhile_digits wholeDigits pointEnds]
  simp [takeWhile_digits fractionDigits ends, dropWhile_digits fractionDigits ends, read, readTail]

/-- A decimal number without a point. -/
theorem parse?_noPoint {whole tail : List Char} (wholeDigits : ∀ c ∈ whole, c.isDigit = true)
    (ends : EndsDigits tail) (noPoint : tail.head? ≠ some '.') {digits : Nat} {exponent : Int}
    (read : natInBase? 10 whole = some digits) (readTail : exponent? tail = some exponent) :
    parse? (whole ++ tail) = some ⟨digits, exponent⟩ := by
  unfold parse?
  rw [takeWhile_digits wholeDigits ends, dropWhile_digits wholeDigits ends]
  cases tail with
  | nil =>
      cases readTail
      simp [read, exponent?]
  | cons c tail =>
      have other : c ≠ '.' := fun same => noPoint (congrArg some same)
      simp [other, read, readTail]

theorem isDigit_of_mem_replicate_zero {count : Nat} {c : Char}
    (found : c ∈ List.replicate count '0') : c.isDigit = true := by
  rw [List.eq_of_mem_replicate found]
  rfl

theorem endsDigits_nil : EndsDigits [] := nofun

theorem parse?_zerosBehind (value zeros : Nat) :
    parse? (Nat.toDigits 10 value ++ List.replicate zeros '0' ++ ['.', '0']) =
      some ⟨value * 10 ^ zeros * 10, -1⟩ := by
  have whole : ∀ c ∈ Nat.toDigits 10 value ++ List.replicate zeros '0', c.isDigit = true := by
    intro c found
    rcases List.mem_append.mp found with found | found
    · exact isDigit_of_mem_toDigits found
    · exact isDigit_of_mem_replicate_zero found
  have zero : ∀ c ∈ ['0'], c.isDigit = true := List.forall_mem_singleton.mpr rfl
  have read : natInBase? 10 ((Nat.toDigits 10 value ++ List.replicate zeros '0') ++ ['0']) =
      some (value * 10 ^ zeros * 10) := by
    have last : ['0'] = List.replicate 1 '0' := rfl
    rw [natInBase?_of_ne_nil (by simp), digitsFrom?_append, digitsFrom?_append,
      digitsFrom?_toDigits, Option.bind_some, digitsFrom?_replicate_zero, Option.bind_some, last,
      digitsFrom?_replicate_zero, zero_mul, zero_add, pow_one]
  exact parse?_point whole zero endsDigits_nil read rfl

theorem parse?_pointAmong (value before : Nat) :
    parse? ((Nat.toDigits 10 value).take before ++ '.' :: (Nat.toDigits 10 value).drop before) =
      some ⟨value, -((Nat.toDigits 10 value).drop before).length⟩ := by
  have digits : ∀ c ∈ Nat.toDigits 10 value, c.isDigit = true := fun _ => isDigit_of_mem_toDigits
  have parts := List.take_append_drop before (Nat.toDigits 10 value)
  have read := natInBase?_toDigits value
  rw [← parts] at read
  have point := parse?_point (fun c found => digits c (List.mem_of_mem_take found))
    (fun c found => digits c (List.mem_of_mem_drop found)) endsDigits_nil read rfl
  rw [List.append_nil, Int.zero_sub] at point
  exact point

theorem parse?_zerosBefore (value zeros : Nat) :
    parse? ('0' :: '.' :: List.replicate zeros '0' ++ Nat.toDigits 10 value) =
      some ⟨value, -(zeros + (Nat.toDigits 10 value).length : Nat)⟩ := by
  have whole : ∀ c ∈ ['0'], c.isDigit = true := List.forall_mem_singleton.mpr rfl
  have fraction : ∀ c ∈ List.replicate zeros '0' ++ Nat.toDigits 10 value, c.isDigit = true := by
    intro c found
    rcases List.mem_append.mp found with found | found
    · exact isDigit_of_mem_replicate_zero found
    · exact isDigit_of_mem_toDigits found
  have read : natInBase? 10 (['0'] ++ (List.replicate zeros '0' ++ Nat.toDigits 10 value)) =
      some value := by
    have first : ['0'] = List.replicate 1 '0' := rfl
    rw [natInBase?_of_ne_nil (by simp), first, digitsFrom?_append, digitsFrom?_replicate_zero,
      Option.bind_some, digitsFrom?_append, digitsFrom?_replicate_zero, Option.bind_some,
      digitsFrom?_toDigits, zero_mul, zero_mul, zero_mul, zero_add]
  have point := parse?_point whole fraction endsDigits_nil read rfl
  rw [List.append_nil, Int.zero_sub, List.length_append, List.length_replicate] at point
  exact point

theorem positional_reads (decimal : Decimal) :
    ∃ read, parse? (FloatStyle.positional decimal) = some read ∧ read.value = decimal.value := by
  obtain ⟨value, exponent⟩ := decimal
  unfold FloatStyle.positional
  dsimp only
  split
  · rename_i large
    refine ⟨_, parse?_zerosBehind value exponent.toNat, ?_⟩
    obtain ⟨count, rfl⟩ := Int.eq_ofNat_of_zero_le large
    unfold Decimal.value
    push_cast
    rw [Int.toNat_natCast, zpow_natCast]
    norm_num
    ring
  · rename_i small
    split
    · refine ⟨_, parse?_pointAmong value _, ?_⟩
      rw [List.length_drop]
      congr 2
      omega
    · refine ⟨_, parse?_zerosBefore value _, ?_⟩
      congr 2
      omega

theorem endsDigits_exponent (tail : List Char) : EndsDigits ('e' :: tail) := by
  intro c found
  cases found
  rfl

theorem exponent?_text (style : FloatStyle) (exponent : Int) :
    exponent? ('e' :: ((if exponent < 0 then ['-'] else if style.plusSign then ['+'] else []) ++
      Nat.toDigits 10 exponent.natAbs)) = some exponent := by
  have read := natInBase?_toDigits exponent.natAbs
  have unsigned : splitSign (Nat.toDigits 10 exponent.natAbs) =
      (false, Nat.toDigits 10 exponent.natAbs) := splitSign_of_isDigit (by simp)
    fun c => isDigit_of_mem_toDigits
  have letter : ('e' == 'e' || 'e' == 'E') = true := rfl
  unfold exponent?
  dsimp only
  rw [if_pos letter]
  split
  · rename_i negative
    simp [splitSign, read, abs_of_neg negative]
  · rename_i positive
    have same : (exponent.natAbs : Int) = exponent := by omega
    split
    · simp only [List.cons_append, List.nil_append, splitSign, read]
      exact congrArg some same
    · simp only [List.nil_append, unsigned, read]
      exact congrArg some same

theorem scientific_reads (style : FloatStyle) (decimal : Decimal) :
    parse? (style.scientific decimal) = some decimal := by
  obtain ⟨value, exponent⟩ := decimal
  have digits : ∀ c ∈ Nat.toDigits 10 value, c.isDigit = true := fun _ => isDigit_of_mem_toDigits
  have some : 0 < (Nat.toDigits 10 value).length := Nat.length_toDigits_pos
  have tail := exponent?_text style (point ⟨value, exponent⟩ - 1)
  unfold FloatStyle.scientific
  dsimp only
  rw [List.append_assoc, List.cons_append]
  split
  · rename_i short
    have whole : (Nat.toDigits 10 value).take 1 = Nat.toDigits 10 value :=
      List.take_of_length_le short
    rw [whole, List.append_nil, parse?_noPoint digits (endsDigits_exponent _) (by simp)
      (natInBase?_toDigits value) tail]
    unfold point digitCount
    dsimp only
    congr 2
    omega
  · rename_i long
    have parts := List.take_append_drop 1 (Nat.toDigits 10 value)
    have read := natInBase?_toDigits value
    rw [← parts] at read
    rw [List.append_assoc, List.cons_append, parse?_point
      (fun c found => digits c (List.mem_of_mem_take found))
      (fun c found => digits c (List.mem_of_mem_drop found)) (endsDigits_exponent _) read tail]
    unfold point digitCount
    rw [List.length_drop]
    dsimp only
    congr 2
    omega

theorem unsigned_reads (style : FloatStyle) (decimal : Decimal) :
    ∃ read, parse? (style.unsigned decimal) = some read ∧ read.value = decimal.value := by
  unfold FloatStyle.unsigned
  split
  · rename_i zero
    refine ⟨⟨0, -1⟩, rfl, ?_⟩
    unfold value
    rw [zero]
    simp
  · split
    · exact positional_reads decimal
    · exact ⟨decimal, scientific_reads style decimal, rfl⟩

end Decimal

theorem Binary.bits_eq_zero {x : Binary64} {exponent : Int}
    (zero : x.magnitude = .finite 0 exponent) : x.bits = 0 := by
  unfold Binary.magnitude at zero
  rw [Binary.hiddenBit_double] at zero
  dsimp only at zero
  split at zero
  · obtain ⟨same, -⟩ := Magnitude.finite.inj zero
    exact same
  · split at zero
    · obtain ⟨none, -⟩ := Magnitude.finite.inj zero
      omega
    · split at zero <;> cases zero

/-- What is written for a finite number reads back as this number, the sign of a zero included. -/
theorem FloatStyle.unsigned_toBinary {x : Binary64} {significand : Nat} {exponent : Int}
    (finite : x.magnitude = .finite significand exponent) (style : FloatStyle) :
    (Decimal.parse? (style.unsigned (Binary.shortest .double style.tie significand exponent))).map
      (Decimal.toBinary x.negative) = some x := by
  rcases Nat.eq_zero_or_pos significand with rfl | positive
  · have bits : (⟨x.negative, 0⟩ : Binary64) = x := by
      rw [← Binary.bits_eq_zero finite]
    exact congrArg some bits
  · have number := Binary.isDouble_of_magnitude finite positive
    have holds := Binary.shortest_holds number style.tie
    obtain ⟨read, parsed, value⟩ :=
      Decimal.unsigned_reads style (Binary.shortest .double style.tie significand exponent)
    rw [← value] at holds
    obtain ⟨large, -⟩ := number.value_bounds holds
    have some : 0 < read.digits := Binary.digits_pos_of_value (lt_trans (by positivity) large)
    rw [parsed, Option.map_some, number.toBinary_of_holds some holds]

end TaggedConfig
