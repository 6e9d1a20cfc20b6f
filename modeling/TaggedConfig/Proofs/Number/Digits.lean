import Mathlib
import TaggedConfig.Yaml.Scalar

/-!
# Digit strings

A number in decimal digits reads back as the number.  Leading and trailing zeros count as zeros do,
and any character that is no digit spoils the whole string.
-/

namespace TaggedConfig

theorem digitsFrom?_cons (base before : Nat) (c : Char) (rest : List Char) :
    digitsFrom? base before (c :: rest) =
      (digitValue? base c).bind fun digit => digitsFrom? base (before * base + digit) rest := by
  conv_lhs => unfold digitsFrom?
  cases digitValue? base c with
  | some digit => rfl
  | none => rfl

theorem digitsFrom?_append (base before : Nat) (first second : List Char) :
    digitsFrom? base before (first ++ second) =
      (digitsFrom? base before first).bind (digitsFrom? base · second) := by
  induction first generalizing before with
  | nil => rfl
  | cons c rest ih =>
      rw [List.cons_append, digitsFrom?_cons, digitsFrom?_cons]
      cases digitValue? base c with
      | some digit => exact ih _
      | none => rfl

/-- A character that is no digit spoils a digit string. -/
theorem digitsFrom?_eq_none {base : Nat} {c : Char} (noDigit : digitValue? base c = none)
    {text : List Char} (found : c ∈ text) (before : Nat) : digitsFrom? base before text = none := by
  induction text generalizing before with
  | nil => cases found
  | cons first rest ih =>
      rw [digitsFrom?_cons]
      rcases List.mem_cons.mp found with rfl | later
      · rw [noDigit]
        rfl
      · cases digitValue? base first with
        | some digit => exact ih later _
        | none => rfl

theorem natInBase?_eq_none {base : Nat} {c : Char} (noDigit : digitValue? base c = none)
    {text : List Char} (found : c ∈ text) : natInBase? base text = none := by
  unfold natInBase?
  split
  · rfl
  · exact digitsFrom?_eq_none noDigit found 0

theorem digitValue?_digitChar {digit : Nat} (small : digit < 10) :
    digitValue? 10 digit.digitChar = some digit := by
  interval_cases digit <;> rfl

theorem digitsFrom?_replicate_zero (before count : Nat) :
    digitsFrom? 10 before (List.replicate count '0') = some (before * 10 ^ count) := by
  induction count generalizing before with
  | zero => rw [pow_zero, mul_one]; rfl
  | succ count ih =>
      have digit : digitValue? 10 '0' = some 0 := rfl
      rw [List.replicate_succ, digitsFrom?_cons, digit, Option.bind_some, ih, pow_succ, add_zero,
        mul_assoc, mul_comm 10]

/-- The digits of a number, read behind others. -/
theorem digitsFrom?_toDigits (before value : Nat) :
    digitsFrom? 10 before (Nat.toDigits 10 value) =
      some (before * 10 ^ (Nat.toDigits 10 value).length + value) := by
  induction value using Nat.strong_induction_on generalizing before with
  | _ value ih =>
      by_cases small : value < 10
      · rw [Nat.toDigits_of_lt_base small, digitsFrom?_cons, digitValue?_digitChar small]
        rfl
      · have large : 10 ≤ value := Nat.le_of_not_lt small
        have smaller : value / 10 < value := Nat.div_lt_self (by omega) (by norm_num)
        have digit : value % 10 < 10 := Nat.mod_lt _ (by norm_num)
        rw [Nat.toDigits_of_base_le (by norm_num) large, digitsFrom?_append, ih _ smaller,
          Option.bind_some, digitsFrom?_cons, digitValue?_digitChar digit, Option.bind_some,
          List.length_append, List.length_singleton, pow_succ, add_mul, mul_assoc, add_assoc,
          Nat.div_add_mod' value 10]
        rfl

theorem natInBase?_toDigits (value : Nat) : natInBase? 10 (Nat.toDigits 10 value) = some value := by
  unfold natInBase?
  rw [if_neg (by simp), digitsFrom?_toDigits]
  simp

theorem toList_toString_nat (value : Nat) : (toString value).toList = Nat.toDigits 10 value := by
  change (Nat.repr value).toList = _
  rw [Nat.repr_eq_ofList_toDigits, String.toList_ofList]

theorem digitChar_ne_zero {digit : Nat} (positive : 0 < digit) : digit.digitChar ≠ '0' := by
  rw [Ne, Nat.digitChar_eq_zero]
  omega

/-- Digits begin with a zero only if there is nothing else. -/
theorem head?_toDigits_ne_zero {value : Nat} (positive : 0 < value) :
    (Nat.toDigits 10 value).head? ≠ some '0' := by
  induction value using Nat.strong_induction_on with
  | _ value ih =>
      by_cases small : value < 10
      · rw [Nat.toDigits_of_lt_base small, List.head?_singleton, Ne, Option.some_inj]
        exact digitChar_ne_zero positive
      · have large : 10 ≤ value := Nat.le_of_not_lt small
        have smaller : value / 10 < value := Nat.div_lt_self positive (by norm_num)
        rw [Nat.toDigits_of_base_le (by norm_num) large,
          List.head?_append_of_ne_nil _ Nat.toDigits_ne_nil]
        exact ih _ smaller (by omega)

theorem head?_toDigits_of_length {value : Nat} (long : 1 < (Nat.toDigits 10 value).length) :
    (Nat.toDigits 10 value).head? ≠ some '0' := by
  rcases Nat.eq_zero_or_pos value with rfl | positive
  · cases long
    contradiction
  · exact head?_toDigits_ne_zero positive

theorem isDigit_of_mem_toDigits {value : Nat} {c : Char} (found : c ∈ Nat.toDigits 10 value) :
    c.isDigit = true :=
  Nat.isDigit_of_mem_toDigits (by norm_num) (by norm_num) found

end TaggedConfig
