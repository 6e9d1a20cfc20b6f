import TaggedConfig.Proofs.RoundTrip.Characters
import TaggedConfig.Proofs.RoundTrip.Scalars

/-!
# Styles that can be read back

A scalar is written in a style that its text allows, and a scalar that is read in this style stands
for what was written.
-/

namespace TaggedConfig

open Yaml

namespace Yaml.Writing

def Allows : ScalarStyle → List Char → Prop
  | .plain, text => allowsPlain text = true ∧ text ≠ []
  | .singleQuoted, text => allowsSingleQuotes text = true ∧ '\n' ∉ text
  | .doubleQuoted, _ => True
  | .literal, text => allowsLiteral text = true ∧ '\n' ∈ text
  | .folded, _ => False

theorem traits_of_isNumeric {c : Char} (numeric : Scalar.isNumeric c = true) :
    isPrintable c = true ∧ isSpaceChar c = false ∧ isBreak c = false ∧ c ≠ ':' ∧ c ≠ '#' := by
  unfold Scalar.isNumeric at numeric
  rcases Bool.or_eq_true_iff.mp numeric with digit | sign
  · have ascii := IsAscii.of_isDigit digit
    have other {d : Char} (noDigit : d.isDigit = false) : c ≠ d := by
      rintro rfl
      rw [digit] at noDigit
      cases noDigit
    exact ⟨ascii.isPrintable, beq_eq_false_iff_ne.mpr (other rfl), ascii.isBreak, other rfl, other rfl⟩
  · simp only [List.contains_iff_mem, List.mem_cons, List.not_mem_nil, or_false] at sign
    rcases sign with rfl | rfl | rfl | rfl
    · exact ⟨rfl, rfl, rfl, by decide, by decide⟩
    · exact ⟨rfl, rfl, rfl, by decide, by decide⟩
    · exact ⟨rfl, rfl, rfl, by decide, by decide⟩
    · exact ⟨rfl, rfl, rfl, by decide, by decide⟩

theorem hasPair_eq_false {first second : Char → Bool} {text : List Char}
    (none : ∀ c ∈ text, first c = false) : hasPair first second text = false := by
  induction text with
  | nil => rfl
  | cons c rest ih =>
      obtain ⟨here, later⟩ := List.forall_mem_cons.mp none
      cases rest with
      | nil => rfl
      | cons d rest =>
          unfold hasPair
          rw [here, ih later]
          rfl

theorem holdsMarkup_eq_false {text : List Char} (none : ∀ c ∈ text, c ≠ ':' ∧ c ≠ '#')
    (afterGap : Bool) : holdsMarkup afterGap text = false := by
  induction text generalizing afterGap with
  | nil => rfl
  | cons c rest ih =>
      obtain ⟨⟨noColon, noSign⟩, later⟩ := List.forall_mem_cons.mp none
      unfold holdsMarkup
      rw [ih later, beq_eq_false_iff_ne.mpr noColon, beq_eq_false_iff_ne.mpr noSign]
      rfl

theorem isIndicator_of_isDigit {c : Char} (digit : c.isDigit = true) : isIndicator c = false := by
  rw [Bool.eq_false_iff]
  intro indicator
  simp only [isIndicator, isFlowIndicator, Bool.or_eq_true, beq_iff_eq, or_assoc] at indicator
  rcases indicator with rfl | rfl | rfl | rfl | rfl | rfl | rfl | rfl | rfl | rfl | rfl | rfl |
    rfl | rfl | rfl | rfl
  all_goals cases digit

theorem isGap_of_isDigit {c : Char} (digit : c.isDigit = true) : isGap c = false := by
  rw [Bool.eq_false_iff]
  intro gap
  simp only [isGap, isBlank, (IsAscii.of_isDigit digit).isBreak, Bool.or_false, Bool.or_eq_true,
    beq_iff_eq, or_assoc] at gap
  rcases gap with rfl | rfl | rfl
  all_goals cases digit

/-- Neither a sign in front of a digit nor a digit looks like markup. -/
theorem beginsLikeMarkup_signed {text : List Char} (number : Scalar.IsUnsigned text)
    (negative : Bool) : beginsLikeMarkup (Scalar.signed negative text) = false := by
  obtain ⟨digit, rest, isDigit, rfl⟩ := number.begins
  cases negative with
  | true =>
      have noGap : startsWithWordEnd (digit :: rest) = false := isGap_of_isDigit isDigit
      change beginsLikeMarkup ('-' :: digit :: rest) = false
      unfold beginsLikeMarkup
      split
      · rename_i same
        cases same
      · rename_i same
        cases same
        cases isDigit
      · rename_i same
        cases same
      · rename_i same
        cases same
        rw [noGap]
        rfl
  | false =>
      have other {c : Char} (noDigit : c.isDigit = false) : (digit == c) = false := by
        rw [beq_eq_false_iff_ne]
        rintro rfl
        rw [isDigit] at noDigit
        cases noDigit
      change beginsLikeMarkup (digit :: rest) = false
      unfold beginsLikeMarkup
      split
      · rename_i same
        cases same
      · rename_i same
        cases same
        cases isDigit
      · rename_i same
        cases same
        cases isDigit
      · rename_i same
        cases same
        rw [isIndicator_of_isDigit isDigit, other (rfl : '?'.isDigit = false),
          other (rfl : ':'.isDigit = false), other (rfl : '-'.isDigit = false)]
        rfl

theorem allows_plain_signed {text : List Char} (number : Scalar.IsUnsigned text)
    (negative : Bool) : Allows .plain (Scalar.signed negative text) := by
  have traits {c : Char} (found : c ∈ Scalar.signed negative text) :=
    traits_of_isNumeric (number.numeric_signed negative c found)
  have noPair : hasPair isSpaceChar isBreak (Scalar.signed negative text) = false :=
    hasPair_eq_false fun c found => (traits found).2.1
  have noEdge : ∀ c ∈ Scalar.signed negative text, isEdgeGap c = false := by
    intro c found
    unfold isEdgeGap
    rw [(traits found).2.1, (traits found).2.2.1]
    rfl
  have noEscapes : needsEscapes (Scalar.signed negative text) = false := by
    unfold needsEscapes
    rw [noPair, Bool.false_or, List.any_eq_false]
    intro c found
    rw [(traits found).1]
    exact nofun
  have noBreak : (Scalar.signed negative text).any isBreak = false := by
    rw [List.any_eq_false]
    intro c found
    rw [(traits found).2.2.1]
    exact nofun
  have noMarkup : isLikeMarkup (Scalar.signed negative text) = false := by
    unfold isLikeMarkup
    rw [beginsLikeMarkup_signed number, Bool.false_or]
    split
    · rfl
    · rename_i same
      refine holdsMarkup_eq_false (fun d found => (traits ?_).2.2.2) _
      rw [same]
      exact List.mem_cons_of_mem _ found
  have noFirst : (Scalar.signed negative text).head?.any isEdgeGap = false := by
    cases first : (Scalar.signed negative text).head? with
    | none => rfl
    | some c => exact noEdge c (List.mem_of_mem_head? first)
  have noLast : (Scalar.signed negative text).getLast?.any isEdgeGap = false := by
    cases last : (Scalar.signed negative text).getLast? with
    | none => rfl
    | some c => exact noEdge c (List.mem_of_getLast? last)
  refine ⟨?_, number.signed_ne_nil negative⟩
  unfold allowsPlain
  rw [noEscapes, noBreak, noMarkup, noFirst, noLast]
  rfl

/-- A string that cannot be mistaken stands for itself when it is plain. -/
theorem plain_of_isMistakable_eq_false {text : String} (clear : isMistakable text = false) :
    Scalar.plain text = .ok (.string text) := by
  unfold isMistakable at clear
  split at clear
  · rename_i read
    rw [read, Scalar.eq_of_plain_eq_string read]
  · cases clear

theorem allows_styleOf (text : String) : Allows (styleOf text) text.toList := by
  unfold styleOf
  dsimp only
  split
  · rename_i broken
    split
    · rename_i allowed
      exact ⟨allowed, List.contains_iff_mem.mp broken⟩
    · exact trivial
  · rename_i unbroken
    split
    · rename_i allowed
      obtain ⟨clear, allowed⟩ := Bool.and_eq_true_iff.mp allowed
      refine ⟨allowed, fun empty => ?_⟩
      rw [String.toList_eq_nil_iff] at empty
      rw [empty] at clear
      cases clear
    · split
      · rename_i allowed
        exact ⟨allowed, fun found => unbroken (List.contains_iff_mem.mpr found)⟩
      · exact trivial

theorem untagged_styleOf (text : String) :
    Scalar.untagged text (styleOf text) = .ok (.string text) := by
  unfold Scalar.untagged
  split
  · rename_i plain
    unfold styleOf at plain
    dsimp only at plain
    split at plain
    · split at plain <;> cases plain
    · split at plain
      · rename_i allowed
        obtain ⟨clear, -⟩ := Bool.and_eq_true_iff.mp allowed
        exact plain_of_isMistakable_eq_false (by simpa using clear)
      · split at plain <;> cases plain
  · rfl

def styled (style : ScalarStyle) (indent : Nat) (text : List Char) : List Char :=
  match style with
  | .literal => literal indent text
  | .singleQuoted => '\'' :: singleQuotedFrom indent false text ++ ['\'']
  | .doubleQuoted => '"' :: text.flatMap doubleQuotedChar ++ ['"']
  | _ => text

theorem string_eq_styled (indent : Nat) (text : String) :
    string indent text = styled (styleOf text) indent text.toList := by
  unfold string styled
  rfl

end Yaml.Writing

namespace Value

open Yaml.Writing

variable {value : Value} {text : String} {style : ScalarStyle}

theorem allows_render (x : Binary64) : Allows .plain (FloatStyle.yaml.render x).toList := by
  cases meaning : x.magnitude with
  | finite significand exponent =>
      rw [Scalar.render_finite meaning]
      exact allows_plain_signed (Scalar.unsigned_isUnsigned _ _).1 _
  | infinite =>
      unfold FloatStyle.render
      rw [meaning]
      cases x.negative with
      | true => exact ⟨by decide, by decide⟩
      | false => exact ⟨by decide, by decide⟩
  | nan =>
      unfold FloatStyle.render
      rw [meaning]
      dsimp only
      exact ⟨by decide, by decide⟩

theorem allows_scalar (written : value.scalar? = some (text, style)) : Allows style text.toList := by
  cases value with
  | null =>
      cases written
      exact ⟨by decide, by decide⟩
  | bool value =>
      cases written
      cases value with
      | true => exact ⟨by decide, by decide⟩
      | false => exact ⟨by decide, by decide⟩
  | integer value =>
      cases written
      rw [Scalar.toList_toString_int]
      exact allows_plain_signed (Scalar.isUnsigned_toDigits _) _
  | float value =>
      cases written
      exact allows_render value
  | string text =>
      cases written
      exact allows_styleOf text
  | sequence items => cases written
  | mapping entries => cases written

theorem eq_infinity_of_magnitude {x : Binary64} (infinite : x.magnitude = .infinite) :
    x = .infinity x.negative := by
  unfold Binary.magnitude at infinite
  dsimp only at infinite
  split at infinite
  · cases infinite
  · split at infinite
    · cases infinite
    · split at infinite
      · rename_i bits
        unfold Binary.infinity
        rw [← bits]
      · cases infinite

theorem isNaN_of_magnitude {x : Binary64} (nan : x.magnitude = .nan) : x.isNaN = true := by
  unfold Binary.magnitude at nan
  dsimp only at nan
  split at nan
  · cases nan
  · split at nan
    · cases nan
    · split at nan
      · cases nan
      · rename_i notLess notEqual
        exact decide_eq_true (by omega)

theorem plain_render {x : Binary64} (number : x.isNaN = false) :
    Scalar.plain (FloatStyle.yaml.render x) = .ok (.float x) := by
  cases meaning : x.magnitude with
  | finite significand exponent => exact Scalar.plain_render_finite meaning
  | infinite =>
      rw [eq_infinity_of_magnitude meaning]
      cases x.negative with
      | true => rfl
      | false => rfl
  | nan =>
      rw [isNaN_of_magnitude meaning] at number
      cases number

mutual

def toNode : Value → Node
  | .null => .null
  | .bool value => .bool value
  | .integer value => .integer value.toInt
  | .float value => .float value
  | .string text => .string text
  | .sequence items => .sequence (toNodes items)
  | .mapping entries => .mapping (toNodeEntries entries)

def toNodes : List Value → List Node
  | [] => []
  | item :: rest => item.toNode :: toNodes rest

def toNodeEntries : List (String × Value) → List (Node × Node)
  | [] => []
  | (key, value) :: rest => (.string key, value.toNode) :: toNodeEntries rest

end

def isNaN : Value → Bool
  | .float value => value.isNaN
  | _ => false

theorem untagged_scalar (written : value.scalar? = some (text, style)) (number : value.isNaN = false) :
    Scalar.untagged text style = .ok value.toNode := by
  cases value with
  | null =>
      cases written
      rfl
  | bool value =>
      cases written
      cases value with
      | true => rfl
      | false => rfl
  | integer value =>
      cases written
      have least := value.le_toInt
      have greatest := value.toInt_lt
      refine Scalar.plain_toString ?_
      unfold Scalar.fitsNode leastInteger greatestUnsigned
      rw [Bool.and_eq_true, decide_eq_true_eq, decide_eq_true_eq]
      omega
  | float value =>
      cases written
      exact plain_render number
  | string text =>
      cases written
      exact untagged_styleOf text
  | sequence items => cases written
  | mapping entries => cases written

end Value

end TaggedConfig
