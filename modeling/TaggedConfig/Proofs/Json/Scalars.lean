import TaggedConfig.Proofs.Json.Spacing
import TaggedConfig.Proofs.Number.Nearest
import TaggedConfig.Proofs.RoundTrip.Scalars
import TaggedConfig.Value.Json

/-!
# Scalars in JSON

A scalar is written as one lexeme, from which the reader gets the scalar again: the characters of a
string one by one, integers as integers, and finite numbers with a fraction as such.
-/

namespace TaggedConfig.Json

/-- The code of a control character is written with four digits. -/
theorem escapedCode_eq {code : Nat} (small : code < 0x20) :
    ∃ first second third fourth, escapedCode code = ['\\', 'u', first, second, third, fourth] ∧
      natInBase? 16 [first, second, third, fourth] = some code := by
  have all : ∀ code < 0x20,
      escapedCode code = ['\\', 'u', '0', '0', (code / 16).digitChar, (code % 16).digitChar] ∧
        natInBase? 16 ['0', '0', (code / 16).digitChar, (code % 16).digitChar] = some code := by
    decide
  exact ⟨_, _, _, _, all code small⟩

theorem pieces?_plain {c : Char} (noQuote : c ≠ '"') (noBackslash : c ≠ '\\')
    (printable : ¬c.toNat < 0x20) (rest : List Char) :
    pieces? (c :: rest) = (pieces? rest).map (.char c :: ·) := by
  rw [pieces?]
  · simp [noQuote, noBackslash, printable]
  all_goals simp [noQuote, noBackslash]

/-- How a character is written: as it is, behind a backslash, or by its code. -/
theorem stringChar_cases (c : Char) :
    (c ≠ '"' ∧ c ≠ '\\' ∧ ¬c.toNat < 0x20 ∧ stringChar c = [c]) ∨
      (∃ letter, letter ≠ 'u' ∧ escaped? letter = some c ∧ stringChar c = ['\\', letter]) ∨
      (c.toNat < 0x20 ∧ stringChar c = escapedCode c.toNat) := by
  unfold stringChar
  simp only [beq_iff_eq, Bool.or_eq_true]
  split_ifs with marked backspace tab lineFeed formFeed carriage control
  · rcases marked with rfl | rfl
    · exact .inr (.inl ⟨'"', by decide, rfl, rfl⟩)
    · exact .inr (.inl ⟨'\\', by decide, rfl, rfl⟩)
  · subst backspace
    exact .inr (.inl ⟨'b', by decide, rfl, rfl⟩)
  · subst tab
    exact .inr (.inl ⟨'t', by decide, rfl, rfl⟩)
  · subst lineFeed
    exact .inr (.inl ⟨'n', by decide, rfl, rfl⟩)
  · subst formFeed
    exact .inr (.inl ⟨'f', by decide, rfl, rfl⟩)
  · subst carriage
    exact .inr (.inl ⟨'r', by decide, rfl, rfl⟩)
  · exact .inr (.inr ⟨control, rfl⟩)
  · obtain ⟨noQuote, noBackslash⟩ := not_or.mp marked
    exact .inl ⟨noQuote, noBackslash, control, rfl⟩

theorem pieces?_escaped {c letter : Char} (noCode : letter ≠ 'u') (meant : escaped? letter = some c)
    (rest : List Char) :
    pieces? ('\\' :: letter :: rest) = (pieces? rest).map (.char c :: ·) := by
  rw [pieces?]
  · rw [meant]
  all_goals simp [noCode]

theorem characters?_unit {c : Char} (control : c.toNat < 0x20) (others : List Piece) :
    characters? (.unit c.toNat :: others) = (characters? others).map (c :: ·) := by
  have high : isHighSurrogate c.toNat = false := by
    unfold isHighSurrogate
    rw [Bool.and_eq_false_iff]
    exact .inl (decide_eq_false (by omega))
  have low : isLowSurrogate c.toNat = false := by
    unfold isLowSurrogate
    rw [Bool.and_eq_false_iff]
    exact .inl (decide_eq_false (by omega))
  conv_lhs => unfold characters?
  simp [high, low]

/-- A character is read as one piece, which stands for nothing but the character. -/
theorem pieces?_stringChar (c : Char) :
    ∃ piece, (∀ rest, pieces? (stringChar c ++ rest) = (pieces? rest).map (piece :: ·)) ∧
      ∀ others, characters? (piece :: others) = (characters? others).map (c :: ·) := by
  rcases stringChar_cases c with ⟨noQuote, noBackslash, printable, same⟩ |
    ⟨letter, noCode, meant, same⟩ | ⟨control, same⟩
  · rw [same]
    exact ⟨.char c, pieces?_plain noQuote noBackslash printable, fun _ => rfl⟩
  · rw [same]
    exact ⟨.char c, pieces?_escaped noCode meant, fun _ => rfl⟩
  · obtain ⟨_, _, _, _, digits, code⟩ := escapedCode_eq control
    rw [same, digits]
    refine ⟨.unit c.toNat, fun rest => ?_, characters?_unit control⟩
    rw [List.cons_append, List.cons_append, List.cons_append, List.cons_append, List.cons_append,
      List.cons_append, List.nil_append, pieces?, code]

theorem pieces?_string (text : List Char) :
    ∃ pieces, pieces? (text.flatMap stringChar ++ ['"']) = some pieces ∧
      characters? pieces = some text := by
  induction text with
  | nil => exact ⟨[], rfl, rfl⟩
  | cons c rest ih =>
      obtain ⟨pieces, read, stands⟩ := ih
      obtain ⟨piece, first, alone⟩ := pieces?_stringChar c
      refine ⟨piece :: pieces, ?_, ?_⟩
      · rw [List.flatMap_cons, List.append_assoc, first, read, Option.map_some]
      · rw [alone, stands, Option.map_some]

theorem toList_string (text : String) :
    (string text).toList = '"' :: text.toList.flatMap stringChar ++ ['"'] :=
  String.toList_ofList

theorem string?_string (text : String) : string? (string text).toList = some text := by
  obtain ⟨pieces, read, stands⟩ := pieces?_string text.toList
  rw [toList_string, List.cons_append, string?, read, Option.bind_some, stands, Option.map_some,
    String.ofList_toList]

/-- Neither a quote nor a backslash is a digit. -/
theorem isInside_escapedCode {code : Nat} (small : code < 0x20) : IsInside (escapedCode code) := by
  obtain ⟨first, second, third, fourth, same, read⟩ := escapedCode_eq small
  have plain : ∀ c ∈ [first, second, third, fourth], c ≠ '"' ∧ c ≠ '\\' := by
    intro c found
    constructor
    · rintro rfl
      rw [natInBase?_eq_none rfl found] at read
      cases read
    · rintro rfl
      rw [natInBase?_eq_none rfl found] at read
      cases read
  rw [same]
  exact .escape (isInside_of_plain plain)

/-- A string is closed by nothing but its last quote. -/
theorem isInside_string (text : List Char) : IsInside (text.flatMap stringChar) := by
  induction text with
  | nil => exact .nil
  | cons c rest ih =>
      refine IsInside.append ?_ ih
      rcases stringChar_cases c with ⟨noQuote, noBackslash, -, same⟩ |
        ⟨letter, -, -, same⟩ | ⟨control, same⟩
      · rw [same]
        exact .plain noQuote noBackslash .nil
      · rw [same]
        exact .escape .nil
      · rw [same]
        exact isInside_escapedCode control

theorem isDigits_of_forall {text : List Char} (some : text ≠ [])
    (digits : ∀ c ∈ text, c.isDigit = true) : isDigits text = true := by
  unfold isDigits
  rw [Bool.and_eq_true, Bool.not_eq_true', List.isEmpty_eq_false_iff, List.all_eq_true]
  exact ⟨some, digits⟩

theorem isDigits_toDigits (value : Nat) : isDigits (Nat.toDigits 10 value) = true :=
  isDigits_of_forall Nat.toDigits_ne_nil fun _ => isDigit_of_mem_toDigits

theorem isUnsigned_append {whole rest : List Char} (isWhole : isWhole whole = true)
    (ends : Decimal.EndsDigits rest) (isFraction : isFraction rest = true) :
    isUnsigned (whole ++ rest) = true := by
  have digits : ∀ c ∈ whole, c.isDigit = true := by
    unfold Json.isWhole isDigits at isWhole
    simp only [Bool.and_eq_true, List.all_eq_true] at isWhole
    exact isWhole.1.2
  unfold isUnsigned
  rw [Decimal.takeWhile_digits digits ends, Decimal.dropWhile_digits digits ends, isWhole,
    isFraction]
  rfl

theorem isFraction_point {digits rest : List Char} (isDigits : isDigits digits = true)
    (ends : Decimal.EndsDigits rest) (isExponent : isExponent rest = true) :
    isFraction ('.' :: (digits ++ rest)) = true := by
  have each : ∀ c ∈ digits, c.isDigit = true := by
    unfold Json.isDigits at isDigits
    simp only [Bool.and_eq_true, List.all_eq_true] at isDigits
    exact isDigits.2
  rw [isFraction, Decimal.takeWhile_digits each ends, Decimal.dropWhile_digits each ends, isDigits,
    isExponent]
  rfl

/-- The first digit of a positive number is no zero, whatever digits follow. -/
theorem isWhole_of_prefix {value : Nat} (positive : 0 < value) {whole others : List Char}
    (some : whole ≠ []) (digits : ∀ c ∈ whole, c.isDigit = true)
    (same : whole = Nat.toDigits 10 value ++ others ∨ whole ++ others = Nat.toDigits 10 value) :
    isWhole whole = true := by
  have head : whole.head? ≠ Option.some '0' := by
    have first := head?_toDigits_ne_zero positive
    rcases same with rfl | same
    · rw [List.head?_append_of_ne_nil _ Nat.toDigits_ne_nil]
      exact first
    · rw [← same, List.head?_append_of_ne_nil _ some] at first
      exact first
  unfold isWhole
  rw [isDigits_of_forall some digits, bne_iff_ne.mpr head, Bool.or_true]
  rfl

theorem isWhole_toDigits (value : Nat) : isWhole (Nat.toDigits 10 value) = true := by
  unfold isWhole
  rw [isDigits_toDigits, Bool.true_and, Bool.or_eq_true]
  by_cases long : 1 < (Nat.toDigits 10 value).length
  · exact .inr (bne_iff_ne.mpr (head?_toDigits_of_length long))
  · have some : 0 < (Nat.toDigits 10 value).length := Nat.length_toDigits_pos
    exact .inl (beq_iff_eq.mpr (by omega))

theorem endsDigits_point (rest : List Char) : Decimal.EndsDigits ('.' :: rest) := by
  intro c found
  cases found
  rfl

theorem isUnsigned_positional {decimal : Decimal} (positive : 0 < decimal.digits) :
    isUnsigned (FloatStyle.positional decimal) = true := by
  have digits : ∀ c ∈ Nat.toDigits 10 decimal.digits, c.isDigit = true :=
    fun _ => isDigit_of_mem_toDigits
  have zeros (count : Nat) : ∀ c ∈ List.replicate count '0', c.isDigit = true :=
    fun _ => Decimal.isDigit_of_mem_replicate_zero
  have fraction {text : List Char} (some : text ≠ []) (each : ∀ c ∈ text, c.isDigit = true) :
      isFraction ('.' :: text) = true := by
    have point := isFraction_point (isDigits_of_forall some each) Decimal.endsDigits_nil rfl
    rw [List.append_nil] at point
    exact point
  unfold FloatStyle.positional
  dsimp only
  split
  · have whole := isWhole_of_prefix positive (by simp)
      (List.forall_mem_append.mpr ⟨digits, zeros decimal.exponent.toNat⟩) (.inl rfl)
    exact isUnsigned_append whole (endsDigits_point _)
      (fraction (by simp) (List.forall_mem_singleton.mpr rfl))
  · rename_i small
    generalize before : (Nat.toDigits 10 decimal.digits).length - (-decimal.exponent).toNat = count
    split
    · rename_i inside
      have parts := List.take_append_drop count (Nat.toDigits 10 decimal.digits)
      have some : (Nat.toDigits 10 decimal.digits).take count ≠ [] := by
        rw [← List.length_pos_iff, List.length_take]
        omega
      have others : (Nat.toDigits 10 decimal.digits).drop count ≠ [] := by
        rw [← List.length_pos_iff, List.length_drop]
        omega
      have whole := isWhole_of_prefix positive some
        (fun c found => digits c (List.mem_of_mem_take found)) (.inr parts)
      exact isUnsigned_append whole (endsDigits_point _)
        (fraction others fun c found => digits c (List.mem_of_mem_drop found))
    · have whole : isWhole ['0'] = true := rfl
      have text := isUnsigned_append whole (endsDigits_point _)
        (fraction (by simp) (List.forall_mem_append.mpr ⟨zeros
          ((-decimal.exponent).toNat - (Nat.toDigits 10 decimal.digits).length), digits⟩))
      exact text

theorem isExponent_text (style : FloatStyle) (exponent : Int) :
    isExponent ('e' :: ((if exponent < 0 then ['-'] else if style.plusSign then ['+'] else []) ++
      Nat.toDigits 10 exponent.natAbs)) = true := by
  have letter (rest : List Char) : isExponent ('e' :: rest) = isDigits (splitSign rest).2 := rfl
  have digits := isDigits_toDigits exponent.natAbs
  have unsigned : splitSign (Nat.toDigits 10 exponent.natAbs) =
      (false, Nat.toDigits 10 exponent.natAbs) :=
    splitSign_of_isDigit Nat.toDigits_ne_nil fun _ => isDigit_of_mem_toDigits
  rw [letter]
  split
  · exact digits
  · split
    · exact digits
    · rw [List.nil_append, unsigned]
      exact digits

theorem isUnsigned_scientific (style : FloatStyle) {decimal : Decimal}
    (positive : 0 < decimal.digits) : isUnsigned (style.scientific decimal) = true := by
  have digits : ∀ c ∈ Nat.toDigits 10 decimal.digits, c.isDigit = true :=
    fun _ => isDigit_of_mem_toDigits
  have parts := List.take_append_drop 1 (Nat.toDigits 10 decimal.digits)
  have exponent := isExponent_text style (decimal.point - 1)
  have whole := isWhole_of_prefix positive (by simp : (Nat.toDigits 10 decimal.digits).take 1 ≠ [])
    (fun c found => digits c (List.mem_of_mem_take found)) (.inr parts)
  unfold FloatStyle.scientific
  dsimp only
  rw [List.append_assoc, List.append_assoc]
  split
  · exact isUnsigned_append whole (Decimal.endsDigits_exponent _) exponent
  · rename_i long
    have others : (Nat.toDigits 10 decimal.digits).drop 1 ≠ [] := by
      rw [← List.length_pos_iff, List.length_drop]
      omega
    have fraction := isFraction_point
      (isDigits_of_forall others fun c found => digits c (List.mem_of_mem_drop found))
      (Decimal.endsDigits_exponent _) exponent
    exact isUnsigned_append whole (endsDigits_point _) fraction

/-- The text of a number with a fraction is well-formed. -/
theorem isUnsigned_unsigned (style : FloatStyle) (decimal : Decimal) :
    isUnsigned (style.unsigned decimal) = true := by
  unfold FloatStyle.unsigned
  split
  · rfl
  · rename_i nonzero
    have positive := Nat.pos_of_ne_zero nonzero
    split
    · exact isUnsigned_positional positive
    · exact isUnsigned_scientific style positive

/-- A number begins with a digit or a minus sign, and is not taken for a word or a string. -/
theorem scalar?_signed {text : List Char} (number : Yaml.Scalar.IsUnsigned text)
    (negative : Bool) :
    scalar? (Yaml.Scalar.signed negative text) = unsigned? negative text := by
  obtain ⟨digit, rest, isDigit, rfl⟩ := number.begins
  cases negative with
  | true => rfl
  | false =>
      have isNumber : scalar? (digit :: rest) = number? (digit :: rest) := by
        unfold scalar?
        split
        case h_5 => rfl
        all_goals
          rename_i same
          cases same
          cases isDigit
      change scalar? (digit :: rest) = _
      rw [isNumber]
      unfold number?
      split
      · rename_i same
        cases same
        cases isDigit
      · rfl

theorem scalar?_string (text : String) : scalar? (string text).toList = some (.string text) := by
  have read := string?_string text
  rw [toList_string, List.cons_append] at read ⊢
  exact congrArg (Option.map Value.string) read

theorem isFractional_of_digits {text : List Char} (digits : ∀ c ∈ text, c.isDigit = true) :
    isFractional text = false := by
  unfold isFractional
  rw [List.any_eq_false]
  intro c found
  have digit := digits c found
  simp only [Bool.or_eq_true, beq_iff_eq]
  rintro ((rfl | rfl) | rfl)
  · cases digit
  · cases digit
  · cases digit

theorem scalar?_integer (value : Int64) :
    scalar? (toString value.toInt).toList = some (.integer value) := by
  have number := Yaml.Scalar.isUnsigned_toDigits value.toInt.natAbs
  have whole := isUnsigned_append (isWhole_toDigits value.toInt.natAbs) Decimal.endsDigits_nil rfl
  rw [List.append_nil] at whole
  have noFraction : isFractional (Nat.toDigits 10 value.toInt.natAbs) = false :=
    isFractional_of_digits fun _ => isDigit_of_mem_toDigits
  have same : (if decide (value.toInt < 0) then -(value.toInt.natAbs : Int)
      else value.toInt.natAbs) = value.toInt := by
    simp only [decide_eq_true_eq]
    exact Yaml.Scalar.ite_natAbs value.toInt
  rw [Yaml.Scalar.toList_toString_int, scalar?_signed number]
  unfold unsigned?
  rw [if_neg (by simp [whole]), if_neg (by simp [noFraction]), natInBase?_toDigits,
    Option.bind_some, same, int64?_toInt, Option.map_some]

/-- A finite number with a fraction stays one, also when it is as large as an integer. -/
theorem scalar?_float {x : Binary64} (finite : x.isFinite = true) :
    scalar? (float x).toList = some (.float x) := by
  obtain ⟨significand, exponent, magnitude⟩ := Binary.exists_magnitude finite
  obtain ⟨number, c, found, mark⟩ := Yaml.Scalar.unsigned_isUnsigned .json
    (Binary.shortest .double FloatStyle.json.tie significand exponent)
  have fraction : isFractional (FloatStyle.json.unsigned
      (Binary.shortest .double FloatStyle.json.tie significand exponent)) = true := by
    unfold isFractional
    refine List.any_eq_true.mpr ⟨c, found, ?_⟩
    rcases mark with rfl | rfl
    · rfl
    · rfl
  unfold float
  rw [if_pos finite, Yaml.Scalar.render_finite magnitude, scalar?_signed number]
  unfold unsigned?
  rw [if_neg (by simp [isUnsigned_unsigned]), if_pos fraction,
    FloatStyle.unsigned_toBinary magnitude, Option.filter_some, if_pos finite, Option.map_some]

/-- A number with a point or an exponent is read as the finite number that is nearest to it. -/
theorem isNearest_of_unsigned? {negative : Bool} {digits : List Char} {x : Binary64}
    (read : unsigned? negative digits = some (.float x)) :
    ∃ decimal, Decimal.parse? digits = some decimal ∧
      x.IsNearest (if negative then -decimal.value else decimal.value) := by
  unfold unsigned? at read
  split at read
  · cases read
  · split at read
    · obtain ⟨number, filtered, same⟩ := Option.map_eq_some_iff.mp read
      cases same
      obtain ⟨rounded, finite⟩ := Option.filter_eq_some_iff.mp filtered
      obtain ⟨decimal, parsed, number⟩ := Option.map_eq_some_iff.mp rounded
      exact ⟨decimal, parsed, Decimal.toBinary_isNearest number finite⟩
    · obtain ⟨integer, -, same⟩ := Option.map_eq_some_iff.mp read
      cases same

end TaggedConfig.Json
