import TaggedConfig.Proofs.OneLine.Names

/-!
# The two shapes of implicit tags

Which texts are assignments and which are references, without a word about how they are read: an
assignment is a name, an arrow with white space around it, and a value text that is as short as it
can be made by leaving white space to the arrow.  A text can be cut in this way at one place only,
since no white space is a word character, and so no text has both shapes.
-/

namespace TaggedConfig

namespace Text

def spaceRanges : Ranges := [
  (0x20, 0x20), (0x09, 0x0d), (0x85, 0x85), (0xa0, 0xa0), (0x1680, 0x1680), (0x2000, 0x200a),
  (0x2028, 0x2028), (0x2029, 0x2029), (0x202f, 0x202f), (0x205f, 0x205f), (0x3000, 0x3000)]

theorem isSpace_eq_contains (c : Char) : isSpace c = spaceRanges.contains c.toNat := by
  have between (d : Char) : (c == d) = (decide (d ≤ c) && decide (c ≤ d)) := by
    rw [Bool.eq_iff_iff, Bool.and_eq_true, decide_eq_true_eq, decide_eq_true_eq, beq_iff_eq]
    exact ⟨fun same => same ▸ ⟨le_refl c, le_refl c⟩, fun both => le_antisymm both.2 both.1⟩
  unfold isSpace Ranges.contains spaceRanges
  simp only [between, Bool.or_assoc, List.any_cons, List.any_nil, Bool.or_false]
  rfl

/-- The two tables have no code in common. -/
theorem spaceRanges_noWord : ∀ word ∈ wordRanges, ∀ gap ∈ spaceRanges,
    word.2 < gap.1 ∨ gap.2 < word.1 := by
  decide +kernel

theorem isWord_of_isSpace_ascii : ∀ code < 0x80,
    isSpace (Char.ofNat code) = true → isWord (Char.ofNat code) = false := by
  decide +kernel

theorem isWord_of_isSpace {c : Char} (space : isSpace c = true) : isWord c = false := by
  by_cases small : c.toNat < 0x80
  · have ascii := isWord_of_isSpace_ascii c.toNat small
    rw [Char.ofNat_toNat] at ascii
    exact ascii space
  · rw [isSpace_eq_contains] at space
    obtain ⟨gap, isGap, inGap⟩ := List.any_eq_true.mp space
    unfold isWord
    rw [if_neg small, Bool.eq_false_iff]
    intro word
    obtain ⟨range, isRange, inRange⟩ := List.any_eq_true.mp word
    simp only [Bool.and_eq_true, decide_eq_true_eq] at inGap inRange
    have apart := spaceRanges_noWord range isRange gap isGap
    omega

end Text

namespace Implicit

def IsBlank (text : List Char) : Prop := ∀ c ∈ text, Text.isSpace c = true

/-- White space in front of a value: something on one line. -/
structure Leaves (gap value : List Char) : Prop where
  blank : IsBlank gap
  nonempty : value ≠ []
  line : '\n' ∉ value

/-- The longest white space at the beginning of a text that leaves a value. -/
structure LeavesLeast (gap value : List Char) : Prop extends Leaves gap value where
  longest : ∀ other rest, Leaves other rest → other ++ rest = gap ++ value →
    other.length ≤ gap.length

theorem isValue_iff {text : List Char} : isValue text = true ↔ Leaves [] text := by
  unfold isValue
  rw [Bool.and_eq_true, Bool.not_eq_true', Bool.not_eq_true', List.isEmpty_eq_false_iff,
    ← Bool.not_eq_true, List.contains_iff_mem]
  exact ⟨fun both => ⟨nofun, both.1, both.2⟩, fun leaves => ⟨leaves.nonempty, leaves.line⟩⟩

/-- White space that leaves something else leaves it without its first character. -/
theorem Leaves.tail {c : Char} {gap value : List Char} (leaves : Leaves (c :: gap) value) :
    Leaves gap value :=
  ⟨fun d found => leaves.blank d (List.mem_cons_of_mem c found), leaves.nonempty, leaves.line⟩

/-- A value of what follows white space is preferred. -/
theorem valueAfter?_cons_of_later {c : Char} (space : Text.isSpace c = true)
    {rest value : List Char} (later : valueAfter? rest = some value) :
    valueAfter? (c :: rest) = some value := by
  conv_lhs => unfold valueAfter?
  rw [if_pos space, later]

/-- Where no later value can be had, the whole text is the value, if it is one. -/
theorem valueAfter?_cons_of_none {c : Char} {rest : List Char}
    (none : Text.isSpace c = true → valueAfter? rest = none) :
    valueAfter? (c :: rest) = if isValue (c :: rest) then some (c :: rest) else Option.none := by
  conv_lhs => unfold valueAfter?
  by_cases space : Text.isSpace c = true
  · rw [if_pos space, none space]
  · rw [if_neg space]

theorem exists_valueAfter? {gap value : List Char} (leaves : Leaves gap value) :
    ∃ found, valueAfter? (gap ++ value) = some found := by
  induction gap with
  | nil =>
      obtain ⟨c, rest, rfl⟩ := List.exists_cons_of_ne_nil leaves.nonempty
      by_cases later : Text.isSpace c = true ∧ ∃ found, valueAfter? rest = some found
      · obtain ⟨space, found, isFound⟩ := later
        exact ⟨found, valueAfter?_cons_of_later space isFound⟩
      · refine ⟨c :: rest, (valueAfter?_cons_of_none fun space => ?_).trans
          (if_pos (isValue_iff.mpr leaves))⟩
        exact Option.eq_none_iff_forall_ne_some.mpr fun found isFound =>
          later ⟨space, found, isFound⟩
  | cons c gap ih =>
      obtain ⟨found, later⟩ := ih leaves.tail
      exact ⟨found, valueAfter?_cons_of_later (leaves.blank c List.mem_cons_self) later⟩

/-- What is found is a value, and the white space in front of it is the longest that leaves one. -/
theorem leavesLeast_of_valueAfter? {text value : List Char}
    (found : valueAfter? text = some value) :
    ∃ gap, text = gap ++ value ∧ LeavesLeast gap value := by
  induction text with
  | nil => cases found
  | cons c rest ih =>
      by_cases later : Text.isSpace c = true ∧ valueAfter? rest = some value
      · obtain ⟨space, isLater⟩ := later
        obtain ⟨gap, rfl, least⟩ := ih isLater
        refine ⟨c :: gap, rfl, ⟨List.forall_mem_cons.mpr ⟨space, least.blank⟩, least.nonempty,
          least.line⟩, fun other last leaves same => ?_⟩
        cases other with
        | nil => exact Nat.zero_le _
        | cons d other =>
            exact Nat.succ_le_succ (least.longest other last leaves.tail (List.cons.inj same).2)
      · have none (space : Text.isSpace c = true) : valueAfter? rest = Option.none := by
          refine Option.eq_none_iff_forall_ne_some.mpr fun other isOther => later ⟨space, ?_⟩
          rw [valueAfter?_cons_of_later space isOther] at found
          rw [isOther, found]
        rw [valueAfter?_cons_of_none none] at found
        obtain ⟨isWhole, whole⟩ := Option.ite_none_right_eq_some.mp found
        cases whole
        refine ⟨[], rfl, isValue_iff.mp isWhole, fun other last leaves same => ?_⟩
        cases other with
        | nil => exact le_refl 0
        | cons d other =>
            obtain ⟨rfl, rfl⟩ := List.cons.inj same
            obtain ⟨found, isFound⟩ := exists_valueAfter? leaves.tail
            cases (none (leaves.blank d List.mem_cons_self)).symm.trans isFound

/-- Of one text the longest white space that leaves a value leaves one value. -/
theorem LeavesLeast.unique {gap value other last : List Char} (least : LeavesLeast gap value)
    (leastToo : LeavesLeast other last) (same : gap ++ value = other ++ last) :
    gap = other ∧ value = last := by
  refine List.append_inj same (le_antisymm ?_ ?_)
  · exact leastToo.longest gap value least.toLeaves same
  · exact least.longest other last leastToo.toLeaves same.symm

/-- White space in front of anything else is the longest there is. -/
theorem leavesLeast_of_begins {gap rest : List Char} {c : Char} (blank : IsBlank gap)
    (begins : Text.isSpace c = false) (line : '\n' ∉ c :: rest) : LeavesLeast gap (c :: rest) := by
  refine ⟨⟨blank, List.cons_ne_nil c rest, line⟩, fun other last leaves same => ?_⟩
  rcases List.append_eq_append_iff.mp same with ⟨more, rfl, -⟩ | ⟨more, rfl, whole⟩
  · rw [List.length_append]
    exact Nat.le_add_right _ _
  · cases more with
    | nil => rw [List.append_nil]
    | cons d more =>
        obtain ⟨rfl, -⟩ := List.cons.inj whole
        have space : Text.isSpace c = true := leaves.blank c (by simp)
        rw [begins] at space
        cases space

/-- The value behind an arrow is what the longest white space leaves. -/
theorem valueAfter?_eq_some_iff {text value : List Char} :
    valueAfter? text = some value ↔ ∃ gap, text = gap ++ value ∧ LeavesLeast gap value := by
  refine ⟨leavesLeast_of_valueAfter?, ?_⟩
  rintro ⟨gap, rfl, least⟩
  obtain ⟨found, isFound⟩ := exists_valueAfter? least.toLeaves
  obtain ⟨other, same, leastToo⟩ := leavesLeast_of_valueAfter? isFound
  rw [isFound, (least.unique leastToo same).2]

/-- A text cut into the parts of an assignment. -/
structure IsAssignment (text name before after value : List Char) : Prop where
  whole : text = name ++ before ++ '<' :: '=' :: (after ++ value)
  named : IsName name
  blank : IsBlank before
  least : LeavesLeast after value

/-- In front of white space and an arrow a name is split off whole. -/
theorem splitName?_arrow {name before : List Char} (rest : List Char) (named : IsName name)
    (blank : IsBlank before) :
    splitName? (name ++ before ++ '<' :: rest) = some (name, before ++ '<' :: rest) := by
  rw [List.append_assoc]
  refine splitName?_append_of_noWord named fun c first => ?_
  cases before with
  | nil =>
      cases first
      exact isWord_sign '<' (by simp [signs])
  | cons c before =>
      cases first
      exact Text.isWord_of_isSpace (blank c List.mem_cons_self)

theorem dropWhile_arrow {before : List Char} (rest : List Char) (blank : IsBlank before) :
    (before ++ '<' :: rest).dropWhile Text.isSpace = '<' :: rest := by
  rw [List.dropWhile_append_of_pos blank]
  rfl

theorem of_splitName?_eq_some {text name rest : List Char}
    (splits : splitName? text = some (name, rest)) : text = name ++ rest ∧ IsName name := by
  unfold splitName? at splits
  split at splits
  · cases splits
  · rename_i nonempty
    cases splits
    exact ⟨List.takeWhile_append_dropWhile.symm, nonempty, fun _ => List.mem_takeWhile_imp⟩

theorem IsAssignment.unique {text name before after value name' before' after' value' : List Char}
    (parts : IsAssignment text name before after value)
    (others : IsAssignment text name' before' after' value') :
    name = name' ∧ before = before' ∧ after = after' ∧ value = value' := by
  obtain ⟨rfl, named, blank, least⟩ := parts
  obtain ⟨same, named', blank', least'⟩ := others
  have split := splitName?_arrow ('=' :: (after ++ value)) named blank
  rw [same, splitName?_arrow _ named' blank'] at split
  obtain ⟨rfl, behind⟩ := Prod.mk.inj (Option.some.inj split)
  have arrow := dropWhile_arrow ('=' :: (after ++ value)) blank
  rw [← behind, dropWhile_arrow _ blank'] at arrow
  have ends : after' ++ value' = after ++ value := (List.cons.inj (List.cons.inj arrow).2).2
  rw [ends] at behind
  obtain ⟨rfl, rfl⟩ := least.unique least' ends.symm
  exact ⟨rfl, (List.append_cancel_right behind).symm, rfl, rfl⟩

/-- A name, an arrow with white space around it, and a value that begins with something else. -/
theorem isAssignment_of_begins {name before after rest : List Char} {c : Char} (named : IsName name)
    (blank : IsBlank before) (blankToo : IsBlank after) (begins : Text.isSpace c = false)
    (line : '\n' ∉ c :: rest) :
    IsAssignment (name ++ before ++ '<' :: '=' :: (after ++ c :: rest)) name before after
      (c :: rest) :=
  ⟨rfl, named, blank, leavesLeast_of_begins blankToo begins line⟩

/-- Assignments are read off the texts that can be cut into the parts of one, and only off these. -/
theorem assignment?_eq_some_iff {text name valueText : String} :
    assignment? text = some (name, valueText) ↔
      ∃ before after, IsAssignment text.toList name.toList before after valueText.toList := by
  unfold assignment?
  constructor
  · intro read
    split at read
    · cases read
    · rename_i found rest splits
      obtain ⟨whole, named⟩ := of_splitName?_eq_some splits
      split at read
      · rename_i behind arrow
        obtain ⟨value, isValue, same⟩ := Option.map_eq_some_iff.mp read
        obtain ⟨after, rfl, least⟩ := valueAfter?_eq_some_iff.mp isValue
        cases same
        rw [String.toList_ofList, String.toList_ofList]
        refine ⟨rest.takeWhile Text.isSpace, after, ?_, named, fun _ => List.mem_takeWhile_imp,
          least⟩
        rw [whole, List.append_assoc, ← arrow, List.takeWhile_append_dropWhile]
      · cases read
  · rintro ⟨before, after, whole, named, blank, least⟩
    rw [whole, splitName?_arrow _ named blank]
    dsimp only
    rw [dropWhile_arrow _ blank]
    change (valueAfter? (after ++ valueText.toList)).map _ = _
    rw [valueAfter?_eq_some_iff.mpr ⟨after, rfl, least⟩, Option.map_some, String.ofList_toList,
      String.ofList_toList]

theorem ofText?_eq_assignment_iff {text name valueText : String} :
    ofText? text = some (.assignment name valueText) ↔
      assignment? text = some (name, valueText) := by
  unfold ofText?
  cases assigned : assignment? text with
  | none => cases reference? text <;> simp
  | some parts => simp [Prod.ext_iff]

/-- A name, a spaced arrow and a value without white space in front of it. -/
theorem ofText?_arrow {name valueText : String} (named : IsName name.toList)
    (nonempty : valueText ≠ "") (line : '\n' ∉ valueText.toList)
    (begins : ∀ c ∈ valueText.toList.head?, Text.isSpace c = false) :
    ofText? (name ++ " <= " ++ valueText) = some (.assignment name valueText) := by
  obtain ⟨c, rest, written⟩ : ∃ c rest, valueText.toList = c :: rest :=
    List.exists_cons_of_ne_nil fun empty => nonempty (String.toList_eq_nil_iff.mp empty)
  rw [written] at line begins
  have space : IsBlank [' '] := List.forall_mem_singleton.mpr rfl
  have parts := isAssignment_of_begins named space space (begins c rfl) line
  rw [ofText?_eq_assignment_iff, assignment?_eq_some_iff]
  exact ⟨[' '], [' '], by simpa [written] using parts⟩

end Implicit

end TaggedConfig
