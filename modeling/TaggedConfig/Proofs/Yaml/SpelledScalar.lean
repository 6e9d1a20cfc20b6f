import TaggedConfig.Proofs.OneLine.Names
import TaggedConfig.Proofs.Yaml.LineStart

/-!
# Booleans and numbers as they are spelled

The spelling of a boolean or a number has no white space and no sign with a meaning of its own.  So
it is read as one plain scalar, with any spaces in front of it and any blanks behind it.
-/

namespace TaggedConfig.Yaml

variable {words blanks : List Char} {node : Node}

theorem isWord_of_isAlphanum {c : Char} (letter : c.isAlphanum = true) : Text.isWord c = true := by
  have bounds := ascii_of_isAlphanum (c := c) (by rw [letter, Bool.true_or])
  have small : c.toNat < 0x80 := lt_of_le_of_lt bounds.2 (by decide)
  unfold Text.isWord
  rw [if_pos small, letter, Bool.true_or]

namespace Scalar

theorem of_isSpelling {c : Char} (spelled : isSpelling c = true) :
    isInner c = true ∧ isAllowed c = true ∧ (isOpening c = true ∨ c = '-' ∨ c = '.') := by
  unfold isSpelling at spelled
  rcases Bool.or_eq_true_iff.mp spelled with letter | sign
  · obtain ⟨opening, allowed⟩ := of_isWord (isWord_of_isAlphanum letter)
    exact ⟨isInner_of_isOpening opening, allowed, .inl opening⟩
  · simp only [List.contains_cons, List.contains_nil, Bool.or_false, Bool.or_eq_true,
      beq_iff_eq] at sign
    rcases sign with rfl | rfl | rfl | rfl <;> decide

/-- Every character of a boolean or a number belongs to its spelling. -/
theorem isSpelling_of_isTyped (read : plain (String.ofList words) = .ok node)
    (typed : node.isTyped = true) : ∀ c ∈ words, isSpelling c = true := by
  intro c found
  by_contra other
  rw [Bool.not_eq_true] at other
  have string : plain (String.ofList words) = .ok (.string (String.ofList words)) :=
    plain_of_foreign other (by rwa [String.toList_ofList])
  cases read.symm.trans string
  cases typed

/-- Dots and hyphens alone are no number. -/
theorem ne_of_isTyped (read : plain (String.ofList words) = .ok node)
    (typed : node.isTyped = true) :
    words ≠ [] ∧ words ≠ ['-'] ∧ words ≠ ['-', '-', '-'] ∧ words ≠ ['.', '.', '.'] := by
  have differs {other : List Char} {found : Node} (same : plain (String.ofList other) = .ok found)
      (untyped : found.isTyped = false) : words ≠ other := by
    rintro rfl
    cases read.symm.trans same
    cases typed.symm.trans untyped
  have hyphen : plain (String.ofList ['-']) = .ok (.string "-") := rfl
  have hyphens : plain (String.ofList ['-', '-', '-']) = .ok (.string "---") := rfl
  have dots : plain (String.ofList ['.', '.', '.']) = .ok (.string "...") := rfl
  exact ⟨differs (rfl : plain (String.ofList []) = .ok .null) rfl, differs hyphen rfl,
    differs hyphens rfl, differs dots rfl⟩

end Scalar

theorem startsWithMarker_eq_false {sign : Char} (signs : isBlank sign = false)
    (inner : ∀ c ∈ words, isInner c = true) (blank : ∀ c ∈ blanks, isBlank c = true)
    (other : words ≠ [sign, sign, sign]) : startsWithMarker sign (words ++ blanks) = false := by
  rw [Bool.eq_false_iff]
  intro marker
  have noSign {rest : List Char} (same : blanks = sign :: rest) : False := by
    rw [same] at blank
    cases (blank sign List.mem_cons_self).symm.trans signs
  unfold startsWithMarker at marker
  split at marker
  · rename_i first second third rest same
    simp only [Bool.and_eq_true, beq_iff_eq] at marker
    obtain ⟨⟨⟨rfl, rfl⟩, rfl⟩, gap⟩ := marker
    match words, inner, other, same with
    | [], _, _, same => exact noSign same
    | [_], _, _, same => exact noSign (List.cons.inj same).2
    | [_, _], _, _, same => exact noSign (List.cons.inj (List.cons.inj same).2).2
    | [_, _, _], _, other, same =>
        cases same
        exact other rfl
    | _ :: _ :: _ :: d :: _, inner, _, same =>
        cases same
        obtain ⟨noBlank, unbroken, -⟩ := of_isInner (inner d (by simp))
        change (isBlank d || isBreak d) = true at gap
        rw [noBlank, unbroken] at gap
        cases gap
  · cases marker

namespace Lexer

/-- The reader sees a plain scalar where a boolean or a number begins. -/
theorem dispatch_words {lexer : Lexer} (written : lexer.cursor.rest = words ++ blanks)
    (read : Scalar.plain (String.ofList words) = .ok node) (typed : node.isTyped = true)
    (blank : ∀ c ∈ blanks, isBlank c = true) : lexer.dispatch = lexer.fetchPlain := by
  have spelled := Scalar.isSpelling_of_isTyped read typed
  have inner : ∀ c ∈ words, isInner c = true := fun c found =>
    (Scalar.of_isSpelling (spelled c found)).1
  obtain ⟨some, noHyphen, noHyphens, noDots⟩ := Scalar.ne_of_isTyped read typed
  have noStart := startsWithMarker_eq_false (rfl : isBlank '-' = false) inner blank noHyphens
  have noEnd := startsWithMarker_eq_false (rfl : isBlank '.' = false) inner blank noDots
  obtain ⟨c, rest, rfl⟩ := List.exists_cons_of_ne_nil some
  rw [dispatch_eq written]
  rcases (Scalar.of_isSpelling (spelled c List.mem_cons_self)).2.2 with opening | rfl | rfl
  · exact fetchFrom_of_isOpening opening _
  · obtain ⟨d, others, rfl⟩ := List.exists_cons_of_ne_nil fun none => noHyphen (congrArg _ none)
    exact fetchFrom_hyphen (inner d (List.mem_cons_of_mem _ List.mem_cons_self)) noStart
  · rw [List.cons_append] at noStart noEnd
    simp [fetchFrom, noStart, noEnd, startsPlain, isIndicator, isBlank, isBreak]

end Lexer

/-- What stands behind words is dropped from the end up to their last character. -/
theorem dropWhile_reverse {skipped : Char → Bool}
    (last : ∀ c ∈ words.getLast?, skipped c = false) (behind : ∀ c ∈ blanks, skipped c = true) :
    (words ++ blanks).reverse.dropWhile skipped = words.reverse := by
  rw [List.reverse_append, List.dropWhile_append_of_pos fun c found =>
    behind c (List.mem_reverse.mp found)]
  rw [← List.head?_reverse] at last
  cases written : words.reverse with
  | nil => rfl
  | cons c rest =>
      rw [written] at last
      rw [List.dropWhile_cons, last c rfl]
      rfl

section

variable {spaces : List Char} (read : Scalar.plain (String.ofList words) = .ok node)
  (typed : node.isTyped = true)

include read typed

theorem characters_of_isTyped (space : ∀ c ∈ spaces, c = ' ')
    (blank : ∀ c ∈ blanks, isBlank c = true) : ∀ c ∈ spaces ++ (words ++ blanks),
    isBreak c = false ∧ c ≠ '#' ∧ isAllowed c = true := by
  intro c found
  rcases List.mem_append.mp found with early | found
  · rw [space c early]
    decide
  rcases List.mem_append.mp found with inside | late
  · obtain ⟨inner, allowed, -⟩ :=
      Scalar.of_isSpelling (Scalar.isSpelling_of_isTyped read typed c inside)
    obtain ⟨-, unbroken, -, -, noComment⟩ := of_isInner inner
    exact ⟨unbroken, noComment, allowed⟩
  · obtain ⟨unbroken, noComment, -, allowed⟩ := of_isBlank (blank c late)
    exact ⟨unbroken, noComment, allowed⟩

/-- The words begin behind the spaces, and no byte order mark stands in front of them. -/
theorem begins_of_isTyped (space : ∀ c ∈ spaces, c = ' ') (blanks : List Char) :
    (spaces ++ (words ++ blanks)).dropWhile (· == ' ') = words ++ blanks ∧
      (spaces ++ (words ++ blanks)).head? ≠ some '\ufeff' := by
  have spelled := Scalar.isSpelling_of_isTyped read typed
  obtain ⟨first, others, rfl⟩ :=
    List.exists_cons_of_ne_nil (Scalar.ne_of_isTyped read typed).1
  have opens := spelled first List.mem_cons_self
  constructor
  · have noSpace : (first == ' ') = false := by
      rw [beq_eq_false_iff_ne]
      rintro rfl
      cases opens
    rw [List.dropWhile_append_of_pos fun c found => beq_iff_eq.mpr (space c found),
      List.cons_append, List.dropWhile_cons, noSpace]
    rfl
  · intro mark
    cases spaces with
    | nil =>
        cases mark
        cases opens
    | cons c rest =>
        cases mark
        cases space '\ufeff' List.mem_cons_self

/-- The line is cut behind the words and nowhere else. -/
theorem eq_of_isCut (blank : ∀ c ∈ blanks, isBlank c = true) {found behind rest : List Char}
    (cut : Plain.IsCut (words ++ blanks) found behind rest) : found = words ∧ rest = [] := by
  have inner {c : Char} (found : c ∈ words) : isInner c = true :=
    (Scalar.of_isSpelling (Scalar.isSpelling_of_isTyped read typed c found)).1
  have noColon : ':' ∉ words ++ blanks := by
    intro colon
    rcases List.mem_append.mp colon with inside | late
    · exact (of_isInner (inner inside)).2.2.2.1 rfl
    · exact (of_isBlank (blank _ late)).2.2.1 rfl
  have ends : rest = [] := by
    refine cut.ends.resolve_right ?_
    rintro ⟨tail, rfl, -⟩
    rw [cut.whole] at noColon
    exact noColon (List.mem_append_right _ List.mem_cons_self)
  have last : ∀ c ∈ words.getLast?, isBlank c = false := fun c found =>
    (of_isInner (inner (List.mem_of_getLast? found))).1
  have whole := cut.whole
  rw [ends, List.append_nil] at whole
  refine ⟨List.reverse_injective ?_, ends⟩
  rw [← dropWhile_reverse cut.last cut.blank, ← whole, dropWhile_reverse last blank]

theorem tokens_of_isTyped (space : ∀ c ∈ spaces, c = ' ')
    (blank : ∀ c ∈ blanks, isBlank c = true) :
    ∃ tokens, Yaml.tokens (spaces ++ (words ++ blanks)) = (tokens, none) ∧
      tokens.map Token.kind = [.streamStart, .scalar words .plain, .streamEnd] := by
  have characters := characters_of_isTyped read typed space blank
  obtain ⟨begins, noOrderMark⟩ := begins_of_isTyped read typed space blanks
  have line := fun c found => (⟨(characters c found).1, (characters c found).2.1⟩ :
    isBreak c = false ∧ c ≠ '#')
  obtain ⟨found, behind, rest, cut, scanned⟩ := Lexer.fetchPlain_atFirst line
  rw [begins] at cut
  obtain ⟨same, rfl⟩ := eq_of_isCut read typed blank cut
  rw [same] at scanned
  have fetched := Lexer.fetch_behindStart line noOrderMark
  rw [Lexer.dispatch_words begins read typed blank, scanned] at fetched
  obtain ⟨mark, -, tokens⟩ := Lexer.tokensFrom_of_last fetched rfl nofun rfl rfl rfl
    (by rintro candidate same; cases same; rfl)
  have all := Lexer.tokensOf_eq (spaces ++ (words ++ blanks))
  rw [tokens] at all
  refine ⟨_, Eq.trans ?_ all, rfl⟩
  unfold Yaml.tokens
  rw [forbidden?_eq_none fun c found => (characters c found).2.2]

/-- A boolean or a number is read as it is spelled, with spaces before it and blanks behind it. -/
theorem Node.parse_of_isTyped (space : ∀ c ∈ spaces, c = ' ')
    (blank : ∀ c ∈ blanks, isBlank c = true) :
    Node.parse (spaces ++ (words ++ blanks)) = .ok node := by
  obtain ⟨tokens, all, kinds⟩ := tokens_of_isTyped read typed space blank
  obtain ⟨placed, written, happened⟩ := Line.exists_events (.scalar words) all kinds
  have events : (Yaml.events (spaces ++ (words ++ blanks))).1.map PlacedEvent.event =
      scalarEvents .none words .plain := by
    rw [written]
    exact happened
  exact parse_of_scalarEvents events read

end

end TaggedConfig.Yaml
