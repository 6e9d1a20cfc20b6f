import TaggedConfig.Proofs.Failing.Place
import TaggedConfig.Proofs.Shapes
import TaggedConfig.Proofs.Yaml.BareLine
import TaggedConfig.Proofs.Yaml.SpelledScalar

/-!
# Value texts that are typed

A value text that implies no tag and begins with none is null, or a boolean or a number that is the
one scalar of its document, or itself.  On a bare line the document plays no part: the text is typed
exactly if it spells null, a boolean or a number between blanks.
-/

namespace TaggedConfig

open Yaml

/-- A text without comments whose one document is one scalar, of which this is the typed value. -/
inductive HoldsScalar (text : List Char) : Value → Prop
  | of_events {properties : Properties} {words : List Char} {style : ScalarStyle} {node : Node}
      {value : Value} (noComment : '#' ∉ text)
      (events : (Yaml.events text).1.map PlacedEvent.event = scalarEvents properties words style)
      (read : Tree.readScalar (.ofOctets properties.tag) (String.ofList words) style = .ok node)
      (typed : node.isTyped = true) (valued : Value.ofNode node = .ok value) :
      HoldsScalar text value

/-- A text that spells null, a boolean or a number; a tab in front of the last two is in the way. -/
inductive Spells (text : List Char) : Value → Prop
  | null {before words after : List Char} (whole : text = before ++ (words ++ after))
      (blankBefore : ∀ c ∈ before, isBlank c = true) (blankAfter : ∀ c ∈ after, isBlank c = true)
      (null : Scalar.isNull (String.ofList words) = true) : Spells text .null
  | typed {before words after : List Char} {node : Node} {value : Value}
      (whole : text = before ++ (words ++ after)) (space : ∀ c ∈ before, c = ' ')
      (blank : ∀ c ∈ after, isBlank c = true)
      (read : Scalar.plain (String.ofList words) = .ok node) (typed : node.isTyped = true)
      (valued : Value.ofNode node = .ok value) : Spells text value

namespace Text

theorem exists_trim (text : List Char) :
    ∃ before after, text = before ++ (trim text ++ after) ∧ (∀ c ∈ before, isSpace c = true) ∧
      ∀ c ∈ after, isSpace c = true := by
  let rest := (text.dropWhile isSpace).reverse
  refine ⟨text.takeWhile isSpace, (rest.takeWhile isSpace).reverse, ?_,
    fun c found => List.mem_takeWhile_imp found,
    fun c found => List.mem_takeWhile_imp (List.mem_reverse.mp found)⟩
  have behind : trim text ++ (rest.takeWhile isSpace).reverse = text.dropWhile isSpace := by
    change (rest.dropWhile isSpace).reverse ++ _ = _
    rw [← List.reverse_append, List.takeWhile_append_dropWhile, List.reverse_reverse]
  rw [behind, List.takeWhile_append_dropWhile]

/-- White space around words without any is trimmed. -/
theorem trim_between {before words after : List Char} (blankBefore : ∀ c ∈ before, isSpace c = true)
    (blankAfter : ∀ c ∈ after, isSpace c = true) (solid : ∀ c ∈ words, isSpace c = false)
    (some : words ≠ []) : trim (before ++ (words ++ after)) = words := by
  obtain ⟨first, rest, rfl⟩ := List.exists_cons_of_ne_nil some
  have begins :
      (before ++ (first :: rest ++ after)).dropWhile isSpace = first :: rest ++ after := by
    rw [List.dropWhile_append_of_pos blankBefore, List.cons_append, List.dropWhile_cons,
      solid first List.mem_cons_self]
    rfl
  unfold trim
  rw [begins, dropWhile_reverse (fun c found => solid c (List.mem_of_getLast? found)) blankAfter,
    List.reverse_reverse]

end Text

theorem isSpace_of_isBlank {c : Char} (blank : isBlank c = true) : Text.isSpace c = true := by
  unfold isBlank at blank
  rcases Bool.or_eq_true_iff.mp blank with space | tab
  · rw [beq_iff_eq.mp space]
    rfl
  · rw [beq_iff_eq.mp tab]
    rfl

theorem Text.isSpace_of_isSpelling {c : Char} (spelled : Scalar.isSpelling c = true) :
    isSpace c = false := by
  unfold Scalar.isSpelling at spelled
  rcases Bool.or_eq_true_iff.mp spelled with letter | sign
  · rw [Bool.eq_false_iff]
    intro space
    cases (isWord_of_isSpace space).symm.trans (isWord_of_isAlphanum letter)
  · simp only [List.contains_cons, List.contains_nil, Bool.or_false, Bool.or_eq_true,
      beq_iff_eq] at sign
    rcases sign with rfl | rfl | rfl | rfl <;> decide

theorem solid_of_isNull {words : List Char} (null : Scalar.isNull (String.ofList words) = true) :
    words ≠ [] ∧ ∀ c ∈ words, Text.isSpace c = false := by
  have spelled {word : String} (same : String.ofList words = word) : words = word.toList := by
    rw [← same, String.toList_ofList]
  unfold Scalar.isNull at null
  simp only [Bool.or_eq_true, beq_iff_eq] at null
  rcases null with ((same | same) | same) | same <;>
    simp [spelled same, Text.isSpace]

namespace Scope

variable {text : String} {value : Value}

theorem isNullText_of_spells {before words after : List Char}
    (whole : text.toList = before ++ (words ++ after))
    (blankBefore : ∀ c ∈ before, isBlank c = true) (blankAfter : ∀ c ∈ after, isBlank c = true)
    (null : Scalar.isNull (String.ofList words) = true) : isNullText text = true := by
  obtain ⟨some, solid⟩ := solid_of_isNull null
  unfold isNullText
  rwa [whole, Text.trim_between (fun c found => isSpace_of_isBlank (blankBefore c found))
    (fun c found => isSpace_of_isBlank (blankAfter c found)) solid some]

theorem spells_null (bare : IsBare text.toList) (null : isNullText text = true) :
    Spells text.toList .null := by
  obtain ⟨before, after, whole, spaceBefore, spaceAfter⟩ := Text.exists_trim text.toList
  refine .null whole (fun c found => bare.space c ?_ (spaceBefore c found))
    (fun c found => bare.space c ?_ (spaceAfter c found)) null
  · rw [whole]
    exact List.mem_append_left _ found
  · rw [whole]
    exact List.mem_append_right _ (List.mem_append_right _ found)

theorem holdsScalar_iff {text : List Char} {value : Value} :
    HoldsScalar text value ↔ '#' ∉ text ∧
      ∃ node, Node.parse text = .ok node ∧ node.isTyped = true ∧ Value.ofNode node = .ok value := by
  constructor
  · rintro ⟨noComment, events, read, typed, valued⟩
    exact ⟨noComment, _, parse_of_scalarEvents events read, typed, valued⟩
  · rintro ⟨noComment, node, parsed, typed, valued⟩
    obtain ⟨properties, words, style, events, read⟩ := exists_scalarEvents parsed typed
    exact .of_events noComment events read typed valued

theorem of_spells (spells : Spells text.toList value) :
    isNullText text = true ∧ value = .null ∨ HoldsScalar text.toList value := by
  cases spells with
  | null whole blankBefore blankAfter null =>
      exact .inl ⟨isNullText_of_spells whole blankBefore blankAfter null, rfl⟩
  | typed whole space blank read typed valued =>
      refine .inr (holdsScalar_iff.mpr ⟨fun comment => ?_, _, ?_, typed, valued⟩)
      · rw [whole] at comment
        exact (characters_of_isTyped read typed space blank '#' comment).2.1 rfl
      · rw [whole]
        exact Node.parse_of_isTyped read typed space blank

/-- On a bare line, the one scalar of a document is all of the text but blanks. -/
theorem spells_of_holdsScalar (bare : IsBare text.toList) (holds : HoldsScalar text.toList value) :
    Spells text.toList value := by
  obtain ⟨noComment, node, parsed, typed, valued⟩ := holdsScalar_iff.mp holds
  obtain ⟨words, blanks, behind, blank, read⟩ := bare.exists_plain noComment parsed typed
  have whole := List.takeWhile_append_dropWhile (p := (· == ' ')) (l := text.toList)
  rw [behind] at whole
  have space : ∀ c ∈ text.toList.takeWhile (· == ' '), c = ' ' := by
    intro c found
    simpa using List.mem_takeWhile_imp found
  exact .typed whole.symm space blank read typed valued

theorem ofNode_typedText (noNull : isNullText text = false) (noComment : '#' ∉ text.toList)
    {node : Node} (parsed : Node.parse text.toList = .ok node) (typed : node.isTyped = true) :
    Value.ofNode node = .ok (typedText text) := by
  have absent : text.toList.contains '#' = false := by
    rw [Bool.eq_false_iff]
    exact fun comment => noComment (List.contains_iff_mem.mp comment)
  unfold typedText
  rw [noNull, absent, parsed]
  cases node with
  | bool value => rfl
  | integer value => rfl
  | float value => rfl
  | _ => cases typed

theorem typedText_eq_string (noNull : isNullText text = false)
    (untyped : '#' ∉ text.toList → ∀ node, Node.parse text.toList = .ok node →
      node.isTyped = false) : typedText text = .string text := by
  unfold typedText
  rw [noNull, if_neg Bool.false_ne_true]
  split
  · rfl
  · rename_i absent
    have untypedHere := untyped fun comment => absent (List.contains_iff_mem.mpr comment)
    cases parsed : Node.parse text.toList with
    | error error => rfl
    | ok node =>
        have none := untypedHere node parsed
        cases node with
        | bool value => cases none
        | integer value => cases none
        | float value => cases none
        | _ => rfl

/-- A text is typed as null or as the one scalar of its document, and otherwise it is itself. -/
theorem typedText_cases (text : String) :
    isNullText text = true ∧ typedText text = .null ∨ isNullText text = false ∧
      (HoldsScalar text.toList (typedText text) ∨
        (∀ value, ¬HoldsScalar text.toList value) ∧ typedText text = .string text) := by
  cases null : isNullText text with
  | true =>
      refine .inl ⟨rfl, ?_⟩
      unfold typedText
      rw [null]
      rfl
  | false =>
      refine .inr ⟨rfl, ?_⟩
      by_cases holds : ∃ value, HoldsScalar text.toList value
      · obtain ⟨value, holds⟩ := holds
        obtain ⟨noComment, node, parsed, typed, -⟩ := holdsScalar_iff.mp holds
        exact .inl (holdsScalar_iff.mpr
          ⟨noComment, node, parsed, typed, ofNode_typedText null noComment parsed typed⟩)
      · have none := not_exists.mp holds
        refine .inr ⟨none, typedText_eq_string null fun noComment node parsed => ?_⟩
        rw [Bool.eq_false_iff]
        intro typed
        exact none _ (holdsScalar_iff.mpr
          ⟨noComment, node, parsed, typed, ofNode_typedText null noComment parsed typed⟩)

/-- A bare text is the value that it spells, and otherwise it is itself. -/
theorem typedText_of_isBare (bare : IsBare text.toList) :
    Spells text.toList (typedText text) ∨
      (∀ value, ¬Spells text.toList value) ∧ typedText text = .string text := by
  rcases typedText_cases text with ⟨null, same⟩ | ⟨noNull, holds | ⟨none, same⟩⟩
  · rw [same]
    exact .inl (spells_null bare null)
  · exact .inl (spells_of_holdsScalar bare holds)
  · refine .inr ⟨fun value spells => ?_, same⟩
    rcases of_spells spells with ⟨null, -⟩ | holds
    · cases null.symm.trans noNull
    · exact none value holds

/-- What a text spells is what it is as a plain scalar, without the white space around it. -/
theorem plain_trim_of_spells {text : List Char} (spells : Spells text value) :
    ∃ node, Scalar.plain (String.ofList (Text.trim text)) = .ok node ∧
      Value.ofNode node = .ok value ∧ (node = .null ∨ node.isTyped = true) := by
  cases spells with
  | null whole blankBefore blankAfter null =>
      obtain ⟨some, solid⟩ := solid_of_isNull null
      rw [whole, Text.trim_between (fun c found => isSpace_of_isBlank (blankBefore c found))
        (fun c found => isSpace_of_isBlank (blankAfter c found)) solid some]
      refine ⟨.null, ?_, rfl, .inl rfl⟩
      unfold Scalar.plain
      rw [null, Bool.or_true, if_pos rfl]
  | typed whole space blank read typed valued =>
      have spelled := Scalar.isSpelling_of_isTyped read typed
      rw [whole, Text.trim_between (fun c found => by rw [space c found]; rfl)
        (fun c found => isSpace_of_isBlank (blank c found))
        (fun c found => Text.isSpace_of_isSpelling (spelled c found))
        (Scalar.ne_of_isTyped read typed).1]
      exact ⟨_, read, valued, .inr typed⟩

theorem spells_unique {text : List Char} {one other : Value} (first : Spells text one)
    (second : Spells text other) : one = other := by
  obtain ⟨node, read, valued, -⟩ := plain_trim_of_spells first
  obtain ⟨_, readOther, valuedOther, -⟩ := plain_trim_of_spells second
  cases read.symm.trans readOther
  exact Except.ok.inj (valued.symm.trans valuedOther)

theorem resolveValueText_of_ordinary (scope : Scope) (ordinary : Implicit.ofText? text = none)
    (noTag : text.toList.head? ≠ some '!') :
    scope.resolveValueText text = .ofValue (typedText text) := by
  rw [resolveValueText_eq]
  unfold resolveValueTextWith
  rw [ordinary]
  exact if_neg fun first => noTag (beq_iff_eq.mp first)

/--
A value text that implies no tag and begins with none has a value and leaves the store as it is.  It
is null, or the boolean or number that is the one scalar of its document, or itself.  A bare one is
typed exactly if it spells its value.
-/
theorem run_resolveValueText (scope : Scope) (ordinary : Implicit.ofText? text = none)
    (noTag : text.toList.head? ≠ some '!') :
    ∃ value, (∀ files store,
        (scope.resolveValueText text).run files store = (some (.ok value), store)) ∧
      (isNullText text = true ∧ value = .null ∨ isNullText text = false ∧
        (HoldsScalar text.toList value ∨
          (∀ other, ¬HoldsScalar text.toList other) ∧ value = .string text)) ∧
      (IsBare text.toList → Spells text.toList value ∨
        (∀ other, ¬Spells text.toList other) ∧ value = .string text) := by
  refine ⟨typedText text, fun files store => ?_, typedText_cases text, typedText_of_isBare⟩
  rw [scope.resolveValueText_of_ordinary ordinary noTag]
  exact Dialogue.run_ofValue files _ store

/-- A number between blanks, as a bare value text. -/
theorem run_resolveValueText_between_blanks :
    let scope := (⟨⟨"."⟩, 0⟩ : Standpoint).scope Loader.basic .atRoot
    IsBare " -0x1F\t".toList ∧ Spells " -0x1F\t".toList (.integer (-31)) ∧
      (scope.resolveValueText " -0x1F\t").run Dialogue.noFiles .empty =
        (some (.ok (.integer (-31))), .empty) := by
  intro scope
  have isBare : IsBare " -0x1F\t".toList :=
    ⟨by simp [Text.isSpace, isBlank], by decide, by decide, by simp⟩
  have spells : Spells " -0x1F\t".toList (.integer (-31)) :=
    @Spells.typed _ [' '] ['-', '0', 'x', '1', 'F'] ['\t'] (.integer (-31)) _ rfl (by simp)
      (by simp [isBlank]) rfl rfl rfl
  obtain ⟨value, run, -, bare⟩ :=
    @run_resolveValueText " -0x1F\t" scope (by decide) (by decide)
  refine ⟨isBare, spells, ?_⟩
  rcases bare isBare with same | ⟨none, -⟩
  · rw [spells_unique spells same]
    exact run Dialogue.noFiles .empty
  · exact absurd spells (none _)

/-- Behind a document marker, a number is typed although the text spells nothing. -/
theorem run_resolveValueText_behind_marker :
    let scope := (⟨⟨"."⟩, 0⟩ : Standpoint).scope Loader.basic .atRoot
    Implicit.ofText? "--- 5" = none ∧ "--- 5".toList.head? ≠ some '!' ∧
      (∀ value, ¬Spells "--- 5".toList value) ∧
      (scope.resolveValueText "--- 5").run Dialogue.noFiles .empty =
        (some (.ok (.integer 5)), .empty) := by
  intro scope
  have ordinary : Implicit.ofText? "--- 5" = none := by decide
  have noTag : "--- 5".toList.head? ≠ some '!' := by decide
  refine ⟨ordinary, noTag, fun value spells => ?_, ?_⟩
  · obtain ⟨node, read, -, typed⟩ := plain_trim_of_spells spells
    have string : Scalar.plain (String.ofList (Text.trim "--- 5".toList)) =
        .ok (.string "--- 5") := by rfl
    cases read.symm.trans string
    rcases typed with same | same <;> cases same
  · have events : (Yaml.events "--- 5".toList).1.map PlacedEvent.event =
        scalarEvents .none ['5'] .plain := by rfl
    have parsed : Node.parse "--- 5".toList = .ok (.integer 5) := parse_of_scalarEvents events rfl
    have value : typedText "--- 5" = .integer 5 :=
      (Except.ok.inj (ofNode_typedText (by decide) (by decide) parsed rfl)).symm
    rw [scope.resolveValueText_of_ordinary ordinary noTag, value]
    rfl

end Scope

end TaggedConfig
