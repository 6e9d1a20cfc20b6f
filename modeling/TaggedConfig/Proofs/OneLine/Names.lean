import TaggedConfig.Proofs.OneLine.Nodes
import TaggedConfig.Proofs.Recursion
import TaggedConfig.Proofs.RoundTrip.Loading

/-!
# Names and integers on one line

The name of a variable and the text of an integer are plain scalars, and so are an assignment and a
reference that are made of them.  These two are strings.  A name alone stands for whatever it is
spelled as, but implies no tag.
-/

namespace TaggedConfig

open Yaml

namespace Implicit

/-- The name of a variable: word characters, and at least one. -/
structure IsName (name : List Char) : Prop where
  nonempty : name ≠ []
  letters : ∀ c ∈ name, Text.isWord c = true

def signs : List Char := ['$', '<', '=', '-', '#', '!', ' ', '\n']

theorem isWord_sign : ∀ c ∈ signs, Text.isWord c = false := by
  simp [signs, Text.isWord, Char.isAlphanum, Char.isAlpha, Char.isUpper, Char.isLower, Char.isDigit]

theorem isWord_of_isDigit {c : Char} (digit : c.isDigit = true) : Text.isWord c = true := by
  have bounds := digit
  simp only [Char.isDigit, Bool.and_eq_true, decide_eq_true_eq] at bounds
  have small : c.toNat < 0x80 := lt_of_le_of_lt bounds.2 (by decide)
  unfold Text.isWord
  rw [if_pos small]
  simp [Char.isAlphanum, digit]

theorem isName_toDigits (value : Nat) : IsName (Nat.toDigits 10 value) :=
  ⟨Nat.toDigits_ne_nil, fun _ found => isWord_of_isDigit (isDigit_of_mem_toDigits found)⟩

theorem IsName.ne_of_mem {name : List Char} (named : IsName name) {c d : Char} (found : c ∈ name)
    (sign : d ∈ signs) : c ≠ d := by
  rintro rfl
  cases (named.letters c found).symm.trans (isWord_sign c sign)

section

variable {name rest : List Char}

/-- A name is split off up to the first character that is no word character. -/
theorem splitName?_append_of_noWord (named : IsName name)
    (ends : ∀ c ∈ rest.head?, Text.isWord c = false) :
    splitName? (name ++ rest) = some (name, rest) := by
  obtain ⟨first, letters, rfl⟩ := List.exists_cons_of_ne_nil named.nonempty
  have stops : rest.takeWhile Text.isWord = [] ∧ rest.dropWhile Text.isWord = rest := by
    cases rest with
    | nil => exact ⟨rfl, rfl⟩
    | cons c rest => simp [ends c rfl]
  unfold splitName?
  rw [List.takeWhile_append_of_pos named.letters, List.dropWhile_append_of_pos named.letters, stops.1,
    stops.2, List.append_nil]

theorem splitName?_append (named : IsName name) (ends : ∀ c ∈ rest.head?, c ∈ signs) :
    splitName? (name ++ rest) = some (name, rest) :=
  splitName?_append_of_noWord named fun c first => isWord_sign c (ends c first)

theorem splitName?_name (named : IsName name) : splitName? name = some (name, []) := by
  have whole : splitName? (name ++ []) = some (name, []) := splitName?_append named nofun
  rwa [List.append_nil] at whole

theorem splitName?_of_sign {c : Char} (sign : c ∈ signs) : splitName? (c :: rest) = none := by
  unfold splitName?
  rw [List.takeWhile_cons_of_neg (by simp [isWord_sign c sign])]

/-- A value text without white space is found behind an arrow and a space. -/
theorem valueAfter?_space {c : Char} (noSpace : Text.isSpace c = false)
    (line : '\n' ∉ c :: rest) : valueAfter? (' ' :: c :: rest) = some (c :: rest) := by
  have value : isValue (c :: rest) = true := by
    unfold isValue
    simpa using line
  have found : valueAfter? (c :: rest) = some (c :: rest) := by
    unfold valueAfter?
    simp [noSpace, value]
  conv_lhs => unfold valueAfter?
  rw [found]
  rfl

end

variable {name : String}

/-- An assignment is taken apart into what it is made of. -/
theorem assignment?_arrow (named : IsName name.toList) {valueText : String}
    (begins : ∃ c rest, valueText.toList = c :: rest ∧ Text.isSpace c = false)
    (line : '\n' ∉ valueText.toList) :
    assignment? (name ++ " <= " ++ valueText) = some (name, valueText) := by
  obtain ⟨c, rest, written, noSpace⟩ := begins
  have characters : (name ++ " <= " ++ valueText).toList =
      name.toList ++ ' ' :: '<' :: '=' :: ' ' :: c :: rest := by
    simp [written]
  rw [written] at line
  unfold assignment?
  rw [characters, splitName?_append named (by simp [signs])]
  change (valueAfter? (' ' :: c :: rest)).map _ = _
  rw [valueAfter?_space noSpace line, ← written]
  simp

theorem reference?_dollar (named : IsName name.toList) : reference? ("$" ++ name) = some name := by
  have characters : ("$" ++ name).toList = '$' :: name.toList := by
    simp
  unfold reference?
  rw [characters]
  simp [splitName?_name named]

theorem ofText?_dollar (named : IsName name.toList) :
    ofText? ("$" ++ name) = some (.reference name) := by
  have noAssignment : assignment? ("$" ++ name) = none := by
    have characters : ("$" ++ name).toList = '$' :: name.toList := by
      simp
    unfold assignment?
    rw [characters, splitName?_of_sign (by simp [signs])]
  unfold ofText?
  rw [noAssignment, reference?_dollar named]
  rfl

/-- A text that begins with anything but a dollar sign is no reference. -/
theorem reference?_eq_none {text : String} (other : ∀ c ∈ text.toList.head?, c ≠ '$') :
    reference? text = none := by
  unfold reference?
  split
  · rename_i rest written
    rw [written] at other
    exact absurd rfl (other '$' rfl)
  · rfl

theorem reference?_name (named : IsName name.toList) : reference? name = none :=
  reference?_eq_none fun _ first => named.ne_of_mem (List.mem_of_head? first) (by simp [signs])

/-- A name alone asks for nothing. -/
theorem ofText?_name (named : IsName name.toList) : ofText? name = none := by
  have noAssignment : assignment? name = none := by
    unfold assignment?
    rw [splitName?_name named]
    rfl
  unfold ofText?
  rw [noAssignment, reference?_name named]
  rfl

/-- The text of an integer asks for nothing: it is a word, or begins with a sign. -/
theorem ofText?_toString (value : Int) : ofText? (toString value) = none := by
  have written := Scalar.toList_toString_int value
  unfold Scalar.signed at written
  split at written
  · have noName : splitName? (toString value).toList = none := by
      rw [written]
      exact splitName?_of_sign (by simp [signs])
    have noReference : reference? (toString value) = none := by
      refine reference?_eq_none fun c first => ?_
      rw [written] at first
      cases first
      decide
    unfold ofText? assignment?
    rw [noName, noReference]
    rfl
  · refine ofText?_name ?_
    rw [written]
    exact isName_toDigits _

end Implicit

open Implicit

namespace Yaml

/-- What stands in front of a plain scalar on the line belongs to it, unless it begins otherwise. -/
theorem Line.IsScalar.behind {before words : List Char} (scalar : IsScalar words)
    (opens : ∃ c rest, before = c :: rest ∧ isOpening c = true)
    (inner : ∀ c ∈ before, (isInner c = true ∨ c = ' ') ∧ isAllowed c = true) :
    IsScalar (before ++ words) where
  plain := by
    obtain ⟨c, rest, rfl, opening⟩ := opens
    refine ⟨⟨c, rest ++ words, rfl, .inl opening⟩, fun d found => ?_, fun d found => ?_⟩
    · rcases List.mem_append.mp found with early | late
      · exact (inner d early).1
      · exact scalar.plain.inner d late
    · obtain ⟨first, others, rfl, -⟩ := scalar.plain.begins
      rw [List.getLast?_append_of_ne_nil _ (List.cons_ne_nil first others)] at found
      exact scalar.plain.last d found
  allowed := by
    intro d found
    rcases List.mem_append.mp found with early | late
    · exact (inner d early).2
    · exact scalar.allowed d late

theorem isScalar_of_isName {name : List Char} (named : IsName name) : Line.IsScalar name where
  plain := by
    obtain ⟨c, rest, rfl⟩ := List.exists_cons_of_ne_nil named.nonempty
    exact ⟨⟨c, rest, rfl, .inl (of_isWord (named.letters c List.mem_cons_self)).1⟩,
      fun d found => .inl (isInner_of_isOpening (of_isWord (named.letters d found)).1),
      fun d found => named.ne_of_mem (List.mem_of_getLast? found) (by simp [signs])⟩
  allowed := fun _ found => (of_isWord (named.letters _ found)).2

theorem isScalar_toString (value : Int) : Line.IsScalar (toString value).toList := by
  have digits := isName_toDigits value.natAbs
  have scalar := isScalar_of_isName digits
  rw [Scalar.toList_toString_int]
  unfold Scalar.signed
  split
  · obtain ⟨c, rest, written⟩ := List.exists_cons_of_ne_nil digits.nonempty
    rw [written] at digits scalar ⊢
    refine ⟨⟨⟨'-', c :: rest, rfl, .inr ⟨rfl, c, rfl, ?_⟩⟩, ?_, scalar.plain.last⟩, ?_⟩
    · exact (of_isWord (digits.letters c List.mem_cons_self)).1
    · exact List.forall_mem_cons.mpr ⟨.inl (by decide), scalar.plain.inner⟩
    · exact List.forall_mem_cons.mpr ⟨by decide, scalar.allowed⟩
  · exact scalar

theorem isScalar_dollar {name : String} (named : IsName name.toList) :
    Line.IsScalar ("$" ++ name).toList := by
  rw [String.toList_append]
  exact (isScalar_of_isName named).behind ⟨'$', [], rfl, by decide⟩ (by simp; decide)

theorem isScalar_arrow {name : String} (named : IsName name.toList) (value : Int) :
    Line.IsScalar (name ++ " <= " ++ toString value).toList := by
  rw [String.toList_append]
  refine (isScalar_toString value).behind ?_ ?_
  · obtain ⟨c, rest, written⟩ := List.exists_cons_of_ne_nil named.nonempty
    rw [written] at named
    refine ⟨c, rest ++ [' ', '<', '=', ' '], by simp [written], ?_⟩
    exact (of_isWord (named.letters c List.mem_cons_self)).1
  · rw [String.toList_append]
    refine List.forall_mem_append.mpr ⟨fun c found => ?_, by simp; decide⟩
    obtain ⟨opening, allowed⟩ := of_isWord (named.letters c found)
    exact ⟨.inl (isInner_of_isOpening opening), allowed⟩

namespace Scalar

def isSpelling (c : Char) : Bool := c.isAlphanum || ['+', '-', '.', '~'].contains c

section

variable {c : Char} (foreign : isSpelling c = false) {text : List Char}

include foreign

theorem ne_of_isSpelling {d : Char} (spelled : isSpelling d = true) : c ≠ d := by
  rintro rfl
  cases foreign.symm.trans spelled

theorem isDigit_eq_false : c.isDigit = false := by
  unfold isSpelling Char.isAlphanum at foreign
  exact (Bool.or_eq_false_iff.mp (Bool.or_eq_false_iff.mp foreign).1).2

theorem digitValue?_of_foreign (base : Nat) : digitValue? base c = none := by
  have noDigit := isDigit_eq_false foreign
  unfold isSpelling Char.isAlphanum Char.isAlpha at foreign
  obtain ⟨⟨⟨noUpper, noLower⟩, -⟩, -⟩ := by simpa only [Bool.or_eq_false_iff] using foreign
  have lower : ('a' ≤ c && c ≤ 'z') = false := noLower
  have upper : ('A' ≤ c && c ≤ 'Z') = false := (Bool.decide_and _ _).symm.trans noUpper
  unfold digitValue?
  dsimp only
  rw [noDigit, lower, upper]
  rfl

theorem mem_splitSign (found : c ∈ text) : c ∈ (splitSign text).2 := by
  have noHyphen : c ≠ '-' := ne_of_isSpelling foreign rfl
  have noPlus : c ≠ '+' := ne_of_isSpelling foreign rfl
  unfold splitSign
  split
  · exact (List.mem_cons.mp found).resolve_left noHyphen
  · exact (List.mem_cons.mp found).resolve_left noPlus
  · exact found

theorem unsigned?_of_foreign (found : c ∈ text) : unsigned? text = none := by
  have other : c ≠ '0' ∧ c ≠ 'x' ∧ c ≠ 'o' ∧ c ≠ 'b' :=
    ⟨ne_of_isSpelling foreign rfl, ne_of_isSpelling foreign rfl, ne_of_isSpelling foreign rfl,
      ne_of_isSpelling foreign rfl⟩
  unfold unsigned?
  split
  · exact natInBase?_eq_none (digitValue?_of_foreign foreign 16) (by simpa [other] using found)
  · exact natInBase?_eq_none (digitValue?_of_foreign foreign 8) (by simpa [other] using found)
  · exact natInBase?_eq_none (digitValue?_of_foreign foreign 2) (by simpa [other] using found)
  · exact natInBase?_eq_none (digitValue?_of_foreign foreign 10) found

theorem intNode?_of_foreign (found : c ∈ text) : intNode? text = none := by
  have none : integer? text = none := by
    have digits := unsigned?_of_foreign foreign (mem_splitSign foreign found)
    unfold integer?
    split
    · rfl
    · dsimp only
      rw [digits]
      rfl
  unfold intNode?
  rw [none]

theorem exponent?_of_foreign (found : c ∈ text) : exponent? text = none := by
  unfold exponent?
  split
  · cases found
  · split
    · rename_i first rest letter
      have later : c ∈ rest := by
        refine (List.mem_cons.mp found).resolve_left (ne_of_isSpelling foreign ?_)
        rcases Bool.or_eq_true_iff.mp letter with small | capital
        · rw [beq_iff_eq.mp small]
          rfl
        · rw [beq_iff_eq.mp capital]
          rfl
      dsimp only
      rw [natInBase?_eq_none (digitValue?_of_foreign foreign 10) (mem_splitSign foreign later)]
      rfl
    · rfl

theorem mem_dropWhile_isDigit (found : c ∈ text) : c ∈ text.dropWhile Char.isDigit := by
  rw [← List.takeWhile_append_dropWhile (p := Char.isDigit) (l := text)] at found
  refine (List.mem_append.mp found).resolve_left fun early => ?_
  cases (isDigit_eq_false foreign).symm.trans (List.mem_takeWhile_imp early)

theorem parse?_of_foreign (found : c ∈ text) : Decimal.parse? text = none := by
  have behind := mem_dropWhile_isDigit foreign found
  unfold Decimal.parse?
  dsimp only
  split
  · rename_i digits exponent _ read
    split at read
    · rename_i rest written
      rw [written] at behind
      have later : c ∈ rest :=
        (List.mem_cons.mp behind).resolve_left (ne_of_isSpelling foreign rfl)
      rw [exponent?_of_foreign foreign (mem_dropWhile_isDigit foreign later)] at read
      cases read
    · rw [exponent?_of_foreign foreign behind] at read
      cases read
  · rfl

theorem ne_of_foreign (found : c ∈ text) {word : String}
    (spelled : word.toList.all isSpelling = true) : String.ofList text ≠ word := by
  rintro rfl
  rw [String.toList_ofList] at spelled
  exact ne_of_isSpelling foreign (List.all_eq_true.mp spelled c found) rfl

theorem float?_of_foreign (found : c ∈ text) : float? text = none := by
  have noName {whole : List Char} (found : c ∈ whole) {name : String}
      (named : name ∈ [".inf", ".Inf", ".INF", ".nan", ".NaN", ".NAN"]) :
      String.ofList whole ≠ name := by
    have spelled : ∀ name ∈ [".inf", ".Inf", ".INF", ".nan", ".NaN", ".NAN"],
        name.toList.all isSpelling = true := by decide
    exact ne_of_foreign foreign found (spelled name named)
  have behind := mem_splitSign foreign found
  unfold float? Binary.ofDecimalText?
  dsimp only
  rw [parse?_of_foreign foreign behind]
  simp [noName found, noName behind]

theorem plain_of_foreign {text : String} (found : c ∈ text.toList) :
    plain text = .ok (.string text) := by
  have noWord {word : String}
      (named : word ∈ ["", "null", "Null", "NULL", "~", "true", "True", "TRUE", "false", "False",
        "FALSE"]) : text ≠ word := by
    have spelled : ∀ word ∈ ["", "null", "Null", "NULL", "~", "true", "True", "TRUE", "false",
        "False", "FALSE"], word.toList.all isSpelling = true := by decide
    rw [← String.ofList_toList (s := text)]
    exact ne_of_foreign foreign found (spelled word named)
  unfold plain isNull bool?
  rw [intNode?_of_foreign foreign found, float?_of_foreign foreign found]
  simp [noWord]

end

/-- What a text without tags stands for has no tags, and is no collection. -/
theorem isPlain_of_plain {text : String} (ordinary : ofText? text = none) {node : Node}
    (read : plain text = .ok node) : node.IsPlain ∧ Scope.isCollection node = false := by
  unfold plain at read
  split at read
  · cases read
    exact ⟨.null, rfl⟩
  · split at read
    · cases read
      exact ⟨.bool _, rfl⟩
    · split at read
      · rename_i found
        unfold intNode? at found
        split at found
        · cases found
        · split at found
          · cases found
            cases read
            exact ⟨.integer _, rfl⟩
          · split at found
            · cases found
              cases read
            · cases found
      · split at read
        · cases read
          exact ⟨.string ordinary, rfl⟩
        · split at read
          · cases read
            exact ⟨.float _, rfl⟩
          · cases read
            exact ⟨.string ordinary, rfl⟩

end Scalar

end Yaml

/-- Without white space there is nothing to trim. -/
theorem Text.trim_eq_self {text : List Char} (solid : ∀ c ∈ text, isSpace c = false) :
    trim text = text := by
  have kept {text : List Char} (solid : ∀ c ∈ text, isSpace c = false) :
      text.dropWhile isSpace = text := by
    cases text with
    | nil => rfl
    | cons c rest => rw [List.dropWhile_cons_of_neg (by simp [solid c List.mem_cons_self])]
  unfold trim
  rw [kept solid, kept fun c found => solid c (List.mem_reverse.mp found), List.reverse_reverse]

/-- Letters, digits and most signs are no white space. -/
theorem Text.isSpace_eq_false {c : Char} (least : 0x20 < c.toNat) (greatest : c.toNat < 0x80) :
    isSpace c = false := by
  have other {d : Char} (far : d.toNat ≤ 0x20 ∨ 0x80 ≤ d.toNat) : c ≠ d := by
    rintro rfl
    omega
  have noControl : ¬c ≤ '\r' := fun (below : c.toNat ≤ 13) => by omega
  have noGap : ¬ '\u2000' ≤ c := fun (above : 0x2000 ≤ c.toNat) => by omega
  simp [isSpace, other, noControl, noGap]

/-- Numbers have neither white space nor the signs of comments and tags. -/
theorem of_isNumeric {c : Char} (numeric : Scalar.isNumeric c = true) :
    Text.isSpace c = false ∧ c ≠ '#' ∧ c ≠ '!' := by
  unfold Scalar.isNumeric at numeric
  rcases Bool.or_eq_true_iff.mp numeric with digit | sign
  · have bounds := digit
    simp only [Char.isDigit, Bool.and_eq_true, decide_eq_true_eq] at bounds
    have least : 48 ≤ c.toNat := bounds.1
    have greatest : c.toNat ≤ 57 := bounds.2
    refine ⟨Text.isSpace_eq_false (by omega) (by omega), ?_, ?_⟩
    · rintro rfl
      cases digit
    · rintro rfl
      cases digit
  · simp only [List.contains_iff_mem, List.mem_cons, List.not_mem_nil, or_false] at sign
    rcases sign with rfl | rfl | rfl | rfl <;> decide

/-- The integers with 64 bits fit a node. -/
theorem plain_toString (value : Int64) :
    Scalar.plain (toString value.toInt) = .ok (.integer value.toInt) := by
  refine Scalar.plain_toString ?_
  have least : leastInteger ≤ value.toInt := value.le_toInt
  have greatest : value.toInt ≤ greatestInteger := Int.le_of_lt_add_one value.toInt_lt
  have more : greatestInteger ≤ greatestUnsigned := by decide
  unfold Scalar.fitsNode
  simp [least, greatest.trans more]

theorem typedText_toString (value : Int64) :
    Scope.typedText (toString value.toInt) = .integer value := by
  have numeric := Scalar.numeric_toString value.toInt
  have noNull : Scope.isNullText (toString value.toInt) = false := by
    unfold Scope.isNullText
    rw [Text.trim_eq_self fun c found => (of_isNumeric (numeric c found)).1, String.ofList_toList,
      Bool.eq_false_iff]
    intro null
    have read := plain_toString value
    unfold Scalar.plain at read
    rw [null, Bool.or_true, if_pos rfl] at read
    cases read
  have noComment : (toString value.toInt).toList.contains '#' = false := by
    rw [Bool.eq_false_iff]
    intro comment
    exact (of_isNumeric (numeric '#' (List.contains_iff_mem.mp comment))).2.1 rfl
  have parsed : Node.parse (toString value.toInt).toList = .ok (.integer value.toInt) := by
    have read := (Line.IsWritten.scalar (isScalar_toString value.toInt)).parse
    simp only [Line.node, String.ofList_toList, plain_toString] at read
    exact read
  unfold Scope.typedText
  rw [noNull, noComment, parsed]
  exact Value.ofInteger_toInt value

theorem resolveValueText_toString (scope : Scope) (value : Int64) :
    scope.resolveValueText (toString value.toInt) = .ofValue (.integer value) := by
  rw [Scope.resolveValueText_eq]
  unfold Scope.resolveValueTextWith
  have noTag : ((toString value.toInt).toList.head? == some '!') = false := by
    rw [beq_eq_false_iff_ne]
    intro first
    exact (of_isNumeric (Scalar.numeric_toString _ '!' (List.mem_of_head? first))).2.2 rfl
  rw [ofText?_toString, typedText_toString, noTag]
  rfl

end TaggedConfig
