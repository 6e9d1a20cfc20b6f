import TaggedConfig.Proofs.Number.FloatText
import TaggedConfig.Value.Yaml

/-!
# Scalars that are read back

Every scalar is written as a text in a style.  Read in this style, the text stands for the scalar
again: the text of a number is taken for this number, and a string for nothing but itself.
-/

namespace TaggedConfig

open Yaml

def Value.scalar? : Value → Option (String × ScalarStyle)
  | .null => some ("null", .plain)
  | .bool value => some (if value then "true" else "false", .plain)
  | .integer value => some (toString value.toInt, .plain)
  | .float value => some (FloatStyle.yaml.render value, .plain)
  | .string text => some (text, Writing.styleOf text)
  | .sequence _ | .mapping _ => none

namespace Yaml.Scalar

theorem noWord {text : String} (head : ∀ c ∈ text.toList.head?, c ∉ "nN~tTfF".toList) :
    isNull text = false ∧ bool? text = none := by
  have other {word : String} (letter : ∃ c ∈ word.toList.head?, c ∈ "nN~tTfF".toList) :
      (text == word) = false := by
    rw [beq_eq_false_iff_ne]
    rintro rfl
    obtain ⟨c, first, found⟩ := letter
    exact head c first found
  constructor
  · unfold isNull
    rw [other ⟨'n', rfl, by decide⟩, other ⟨'N', rfl, by decide⟩, other ⟨'N', rfl, by decide⟩,
      other ⟨'~', rfl, by decide⟩]
    rfl
  · unfold bool?
    rw [other ⟨'t', rfl, by decide⟩, other ⟨'T', rfl, by decide⟩, other ⟨'T', rfl, by decide⟩,
      other ⟨'f', rfl, by decide⟩, other ⟨'F', rfl, by decide⟩, other ⟨'F', rfl, by decide⟩]
    rfl

theorem intNode?_ne_string {text : List Char} {other : String} :
    intNode? text ≠ some (.ok (.string other)) := by
  unfold intNode?
  split
  · exact nofun
  · split
    · exact nofun
    · split
      · exact nofun
      · exact nofun

/-- A plain text that stands for a string stands for itself. -/
theorem eq_of_plain_eq_string {text other : String} (read : plain text = .ok (.string other)) :
    other = text := by
  unfold plain at read
  split at read
  · cases read
  · split at read
    · cases read
    · split at read
      · rename_i found
        exact absurd (found.trans (congrArg some read)) intNode?_ne_string
      · split at read
        · cases read
          rfl
        · split at read
          · cases read
          · cases read
            rfl

def isNumeric (c : Char) : Bool := c.isDigit || ['-', '+', '.', 'e'].contains c

/-- A number without sign: it begins with a digit, and has no strange characters. -/
structure IsUnsigned (text : List Char) : Prop where
  begins : ∃ digit rest, digit.isDigit = true ∧ text = digit :: rest
  numeric : ∀ c ∈ text, isNumeric c = true

def signed (negative : Bool) (text : List Char) : List Char := (if negative then ['-'] else []) ++ text

theorem IsUnsigned.splitSign_signed {text : List Char} (number : IsUnsigned text) (negative : Bool) :
    splitSign (signed negative text) = (negative, text) := by
  obtain ⟨digit, rest, isDigit, rfl⟩ := number.begins
  cases negative with
  | true => rfl
  | false =>
      unfold signed splitSign
      split
      · rename_i same
        cases same
        cases isDigit
      · rename_i same
        cases same
        cases isDigit
      · rfl

theorem IsUnsigned.head_signed {text : List Char} (number : IsUnsigned text) (negative : Bool) :
    ∀ c ∈ (signed negative text).head?, c = '-' ∨ c.isDigit = true := by
  intro c found
  obtain ⟨digit, rest, isDigit, rfl⟩ := number.begins
  cases negative with
  | true =>
      cases found
      exact .inl rfl
  | false =>
      cases found
      exact .inr isDigit

theorem IsUnsigned.signed_ne_nil {text : List Char} (number : IsUnsigned text) (negative : Bool) :
    signed negative text ≠ [] := by
  obtain ⟨digit, rest, -, rfl⟩ := number.begins
  cases negative with
  | true => exact nofun
  | false => exact nofun

theorem numeric_cons {c : Char} {rest : List Char} (first : isNumeric c = true)
    (others : ∀ d ∈ rest, isNumeric d = true) : ∀ d ∈ c :: rest, isNumeric d = true :=
  List.forall_mem_cons.mpr ⟨first, others⟩

theorem IsUnsigned.numeric_signed {text : List Char} (number : IsUnsigned text) (negative : Bool) :
    ∀ c ∈ signed negative text, isNumeric c = true := by
  cases negative with
  | true => exact numeric_cons rfl number.numeric
  | false => exact number.numeric

theorem IsUnsigned.noWord {text : List Char} (number : IsUnsigned text) {whole : String}
    {negative : Bool} (same : whole.toList = signed negative text) :
    (whole.isEmpty || isNull whole) = false ∧ bool? whole = none := by
  have noWord : isNull whole = false ∧ bool? whole = none := by
    refine Scalar.noWord fun c found word => ?_
    rw [same] at found
    rcases number.head_signed negative c found with rfl | isDigit
    · revert word
      decide
    · fin_cases word <;> cases isDigit
  have nonempty : whole.isEmpty = false := by
    obtain ⟨digit, rest, isDigit, rfl⟩ := number.begins
    rw [← Bool.not_eq_true, String.isEmpty_iff]
    rintro rfl
    cases negative with
    | true => cases same
    | false => cases same
  rw [nonempty, noWord.1]
  exact ⟨rfl, noWord.2⟩

theorem isNumeric_of_isDigit {c : Char} (digit : c.isDigit = true) : isNumeric c = true := by
  unfold isNumeric
  rw [digit]
  rfl

theorem isUnsigned_of_digits {text : List Char} (some : text ≠ [])
    (digits : ∀ c ∈ text, c.isDigit = true) : IsUnsigned text := by
  obtain ⟨digit, rest, rfl⟩ := List.exists_cons_of_ne_nil some
  exact ⟨⟨digit, rest, digits digit List.mem_cons_self, rfl⟩,
    fun c found => isNumeric_of_isDigit (digits c found)⟩

/-- What follows the first digits of a number may hold a point, an exponent and its sign. -/
theorem IsUnsigned.append {first second : List Char} (number : IsUnsigned first)
    (others : ∀ c ∈ second, isNumeric c = true) : IsUnsigned (first ++ second) := by
  constructor
  · obtain ⟨digit, rest, isDigit, rfl⟩ := number.begins
    exact ⟨digit, rest ++ second, isDigit, rfl⟩
  · intro c found
    rcases List.mem_append.mp found with found | found
    · exact number.numeric c found
    · exact others c found

theorem isUnsigned_toDigits (value : Nat) : IsUnsigned (Nat.toDigits 10 value) :=
  isUnsigned_of_digits Nat.toDigits_ne_nil fun _ => isDigit_of_mem_toDigits

theorem toList_toString_int (value : Int) :
    (toString value).toList = signed (decide (value < 0)) (Nat.toDigits 10 value.natAbs) := by
  cases value with
  | ofNat value =>
      change (Nat.repr value).toList = _
      rw [Nat.repr_eq_ofList_toDigits, String.toList_ofList]
      rfl
  | negSucc value =>
      change ("-" ++ Nat.repr (value + 1)).toList = _
      rw [Nat.repr_eq_ofList_toDigits, String.toList_append, String.toList_ofList]
      have negative : decide (Int.negSucc value < 0) = true := decide_eq_true (Int.negSucc_lt_zero value)
      rw [negative, String.toList_ofList]
      rfl

/-- The characters of the text of an integer. -/
theorem numeric_toString (value : Int) : ∀ c ∈ (toString value).toList, isNumeric c = true := by
  rw [toList_toString_int]
  exact (isUnsigned_toDigits value.natAbs).numeric_signed _

/-- The digits of an integer, with the sign that it has. -/
theorem ite_natAbs (value : Int) :
    (if value < 0 then -(value.natAbs : Int) else value.natAbs) = value := by
  split
  · omega
  · omega

/-- An integer in digits is not padded, and has no mark of another base. -/
theorem unsigned?_toDigits (value : Nat) : unsigned? (Nat.toDigits 10 value) = some value := by
  have digits : ∀ c ∈ Nat.toDigits 10 value, c.isDigit = true := fun _ => isDigit_of_mem_toDigits
  have read := natInBase?_toDigits value
  generalize Nat.toDigits 10 value = text at digits read
  unfold unsigned?
  split
  · cases digits 'x' (by simp)
  · cases digits 'o' (by simp)
  · cases digits 'b' (by simp)
  · exact read

theorem isPaddedDigits_toDigits (negative : Bool) (value : Nat) :
    isPaddedDigits (signed negative (Nat.toDigits 10 value)) = false := by
  unfold isPaddedDigits
  rw [(isUnsigned_toDigits value).splitSign_signed negative]
  dsimp only
  by_cases long : 1 < (Nat.toDigits 10 value).length
  · rw [beq_eq_false_iff_ne.mpr (head?_toDigits_of_length long), Bool.and_false, Bool.false_and]
  · rw [decide_eq_false long, Bool.false_and, Bool.false_and]

theorem integer?_toString (value : Int) : integer? (toString value).toList = some value := by
  unfold integer?
  rw [toList_toString_int, isPaddedDigits_toDigits,
    (isUnsigned_toDigits value.natAbs).splitSign_signed]
  simp only [unsigned?_toDigits, Bool.false_eq_true, if_false, decide_eq_true_eq]
  exact congrArg some (ite_natAbs value)

/-- The text of an integer with 64 bits stands for this integer. -/
theorem plain_toString {value : Int} (fits : fitsNode value = true) :
    plain (toString value) = .ok (.integer value) := by
  obtain ⟨noNull, noBool⟩ :=
    (isUnsigned_toDigits value.natAbs).noWord (toList_toString_int value)
  have read : intNode? (toString value).toList = some (.ok (.integer value)) := by
    unfold intNode?
    rw [integer?_toString]
    dsimp only
    rw [if_pos fits]
  unfold plain
  rw [noNull, noBool, read]
  rfl

theorem numeric_append {first second : List Char} (here : ∀ c ∈ first, isNumeric c = true)
    (later : ∀ c ∈ second, isNumeric c = true) : ∀ c ∈ first ++ second, isNumeric c = true :=
  List.forall_mem_append.mpr ⟨here, later⟩

theorem numeric_of_digits {text : List Char} (digits : ∀ c ∈ text, c.isDigit = true) :
    ∀ c ∈ text, isNumeric c = true :=
  fun c found => isNumeric_of_isDigit (digits c found)

def IsFractional (text : List Char) : Prop := ∃ c ∈ text, c = '.' ∨ c = 'e'

theorem positional_isUnsigned (decimal : Decimal) :
    IsUnsigned (FloatStyle.positional decimal) ∧ IsFractional (FloatStyle.positional decimal) := by
  have digits : ∀ c ∈ Nat.toDigits 10 decimal.digits, c.isDigit = true :=
    fun _ => isDigit_of_mem_toDigits
  have zeros (count : Nat) : ∀ c ∈ List.replicate count '0', isNumeric c = true :=
    numeric_of_digits fun _ => Decimal.isDigit_of_mem_replicate_zero
  unfold FloatStyle.positional
  dsimp only
  split
  · have rest : ∀ c ∈ ['.', '0'], isNumeric c = true := numeric_cons rfl (numeric_cons rfl nofun)
    exact ⟨((isUnsigned_toDigits _).append (zeros _)).append rest, '.', by simp, .inl rfl⟩
  · split
    · rename_i inside
      have some : (Nat.toDigits 10 decimal.digits).take
          ((Nat.toDigits 10 decimal.digits).length - (-decimal.exponent).toNat) ≠ [] := by
        rw [← List.length_pos_iff, List.length_take]
        omega
      have whole := isUnsigned_of_digits some fun c found => digits c (List.mem_of_mem_take found)
      have fraction := numeric_of_digits fun c (found : c ∈ (Nat.toDigits 10 decimal.digits).drop
        ((Nat.toDigits 10 decimal.digits).length - (-decimal.exponent).toNat)) =>
          digits c (List.mem_of_mem_drop found)
      exact ⟨whole.append (numeric_cons rfl fraction), '.', by simp, .inl rfl⟩
    · have whole : IsUnsigned ['0'] := isUnsigned_of_digits (by simp)
        (List.forall_mem_singleton.mpr rfl)
      have fraction := numeric_append (zeros ((-decimal.exponent).toNat -
        (Nat.toDigits 10 decimal.digits).length)) (numeric_of_digits digits)
      exact ⟨whole.append (numeric_cons rfl fraction), '.', by simp, .inl rfl⟩

theorem scientific_isUnsigned (style : FloatStyle) (decimal : Decimal) :
    IsUnsigned (style.scientific decimal) ∧ IsFractional (style.scientific decimal) := by
  have digits : ∀ c ∈ Nat.toDigits 10 decimal.digits, c.isDigit = true :=
    fun _ => isDigit_of_mem_toDigits
  have some : (Nat.toDigits 10 decimal.digits).take 1 ≠ [] := by simp
  have whole := isUnsigned_of_digits some fun c found => digits c (List.mem_of_mem_take found)
  have fraction := numeric_of_digits fun c (found : c ∈ (Nat.toDigits 10 decimal.digits).drop 1) =>
    digits c (List.mem_of_mem_drop found)
  unfold FloatStyle.scientific
  dsimp only
  refine ⟨((whole.append ?_).append ?_).append ?_, 'e', by simp, .inr rfl⟩
  · split
    · exact nofun
    · exact numeric_cons rfl fraction
  · refine numeric_cons rfl ?_
    split
    · exact numeric_cons rfl nofun
    · split
      · exact numeric_cons rfl nofun
      · exact nofun
  · exact numeric_of_digits fun _ => isDigit_of_mem_toDigits

/-- A finite number is written with a point or an exponent. -/
theorem unsigned_isUnsigned (style : FloatStyle) (decimal : Decimal) :
    IsUnsigned (style.unsigned decimal) ∧ IsFractional (style.unsigned decimal) := by
  unfold FloatStyle.unsigned
  split
  · have numeric : ∀ c ∈ ['0', '.', '0'], isNumeric c = true :=
      numeric_cons rfl (numeric_cons rfl (numeric_cons rfl nofun))
    exact ⟨⟨⟨'0', ['.', '0'], rfl, rfl⟩, numeric⟩, '.', by simp, .inl rfl⟩
  · split
    · exact positional_isUnsigned decimal
    · exact scientific_isUnsigned style decimal

/-- A text with a point or an exponent is no integer. -/
theorem IsUnsigned.unsigned?_eq_none {text : List Char} (number : IsUnsigned text)
    (fractional : IsFractional text) : unsigned? text = none := by
  obtain ⟨c, found, mark⟩ := fractional
  have noDigit : digitValue? 10 c = none := by
    rcases mark with rfl | rfl
    · rfl
    · rfl
  unfold unsigned?
  split
  · cases number.numeric 'x' (by simp)
  · cases number.numeric 'o' (by simp)
  · cases number.numeric 'b' (by simp)
  · exact natInBase?_eq_none noDigit found

theorem IsUnsigned.isPaddedDigits_eq_false {text : List Char} (number : IsUnsigned text)
    (fractional : IsFractional text) (negative : Bool) :
    isPaddedDigits (signed negative text) = false := by
  have some : text.all Char.isDigit = false := by
    obtain ⟨c, found, mark⟩ := fractional
    rw [List.all_eq_false]
    refine ⟨c, found, ?_⟩
    rcases mark with rfl | rfl
    · exact nofun
    · exact nofun
  unfold isPaddedDigits
  rw [number.splitSign_signed negative]
  dsimp only
  rw [some, Bool.and_false]

theorem IsUnsigned.integer?_eq_none {text : List Char} (number : IsUnsigned text)
    (fractional : IsFractional text) (negative : Bool) :
    integer? (signed negative text) = none := by
  unfold integer?
  rw [number.isPaddedDigits_eq_false fractional, number.splitSign_signed]
  simp only [number.unsigned?_eq_none fractional, Bool.false_eq_true, if_false]
  rfl

/-- A number is none of the names of infinities and of no number. -/
theorem IsUnsigned.float?_eq {text : List Char} (number : IsUnsigned text) (negative : Bool) :
    float? (signed negative text) =
      ((Decimal.parse? text).map (Decimal.toBinary negative)).filter Binary.isFinite := by
  have noName {whole : List Char} (head : ∀ c ∈ whole.head?, c = '-' ∨ c.isDigit = true)
      (name : String) (point : name.toList.head? = some '.') : String.ofList whole ≠ name := by
    rintro rfl
    rw [String.toList_ofList] at point
    rcases head '.' point with same | digit
    · cases same
    · cases digit
  have head := number.head_signed negative
  have headUnsigned : ∀ c ∈ text.head?, c = '-' ∨ c.isDigit = true := number.head_signed false
  unfold float? Binary.ofDecimalText?
  rw [number.splitSign_signed]
  simp [noName headUnsigned ".inf" rfl, noName headUnsigned ".Inf" rfl,
    noName headUnsigned ".INF" rfl, noName head ".nan" rfl, noName head ".NaN" rfl,
    noName head ".NAN" rfl]

theorem render_finite {x : Binary64} {significand : Nat} {exponent : Int}
    (finite : x.magnitude = .finite significand exponent) (style : FloatStyle) :
    (style.render x).toList = signed x.negative
      (style.unsigned (Binary.shortest .double style.tie significand exponent)) := by
  unfold FloatStyle.render signed
  rw [finite]
  dsimp only
  rw [String.toList_append, String.toList_ofList]
  split
  · rfl
  · rfl

theorem isFinite_of_magnitude {x : Binary64} {significand : Nat} {exponent : Int}
    (finite : x.magnitude = .finite significand exponent) : x.isFinite = true := by
  unfold Binary.magnitude at finite
  unfold Binary.isFinite
  dsimp only at finite
  split at finite
  · rename_i small
    exact decide_eq_true (lt_trans small (by decide))
  · split at finite
    · rename_i less
      exact decide_eq_true less
    · split at finite <;> cases finite

/-- The text of a finite number stands for this number, the sign of a zero included. -/
theorem plain_render_finite {x : Binary64} {significand : Nat} {exponent : Int}
    (finite : x.magnitude = .finite significand exponent) :
    plain (FloatStyle.yaml.render x) = .ok (.float x) := by
  have text := render_finite finite .yaml
  obtain ⟨number, fractional⟩ := unsigned_isUnsigned .yaml
    (Binary.shortest .double FloatStyle.yaml.tie significand exponent)
  obtain ⟨noNull, noBool⟩ := number.noWord text
  have read : float? (FloatStyle.yaml.render x).toList = some x := by
    rw [text, number.float?_eq, FloatStyle.unsigned_toBinary finite, Option.filter_some,
      if_pos (isFinite_of_magnitude finite)]
  have noInteger : intNode? (FloatStyle.yaml.render x).toList = none := by
    unfold intNode?
    rw [text, number.integer?_eq_none fractional]
  have noPadding : isPaddedDigits (FloatStyle.yaml.render x).toList = false := by
    rw [text]
    exact number.isPaddedDigits_eq_false fractional _
  unfold plain
  rw [noNull, noBool, read, noInteger, noPadding]
  rfl

end Yaml.Scalar

end TaggedConfig
