import TaggedConfig.Proofs.DottedPaths.Trails
import TaggedConfig.Proofs.Entries

/-!
# Spellings of a path

Two texts are alike if they are equal up to hyphens and underscores in the place of each other.  Only
three of the spellings of a piece are tried, but these are enough for keys that do not have both
signs.  Where in addition no two keys of a mapping are alike, paths that are alike lead to the same
value.
-/

namespace TaggedConfig

def CharsAlike (first second : Char) : Prop :=
  first = second ∨ (first = '-' ∧ second = '_') ∨ (first = '_' ∧ second = '-')

/-- Two texts of the same length are the same but for hyphens where the other has underscores. -/
def Alike (first second : String) : Prop :=
  List.Forall₂ CharsAlike first.toList second.toList

/-- No key has both signs, and no two keys are alike. -/
structure ClearlySpelled (entries : Entries Value) : Prop where
  uniform : ∀ key ∈ entries.keys, ¬('-' ∈ key.toList ∧ '_' ∈ key.toList)
  apart : entries.keys.Pairwise (¬Alike · ·)

/-- Every mapping in a value, at any depth, has a property. -/
inductive Value.EachMapping (suits : Entries Value → Prop) : Value → Prop
  | mapping {entries : Entries Value} (suited : suits entries)
      (each : ∀ entry ∈ entries, EachMapping suits entry.2) : EachMapping suits (.mapping entries)
  | sequence {items : List Value} (each : ∀ item ∈ items, EachMapping suits item) :
      EachMapping suits (.sequence items)
  | scalar {value : Value} (noEntries : value.entries? = none) (noItems : value.items? = none) :
      EachMapping suits value

def swapChar (old new c : Char) : Char := if c = old then new else c

theorem toList_replaceChar (old new : Char) (text : String) :
    (replaceChar old new text).toList = text.toList.map (swapChar old new) :=
  String.toList_ofList

theorem charsAlike_iff {first second : Char} :
    CharsAlike first second ↔ swapChar '-' '_' first = swapChar '-' '_' second := by
  unfold CharsAlike swapChar
  grind

/-- Lists of characters are alike exactly if they are the same with underscores for all hyphens. -/
theorem forall₂_charsAlike_iff {first second : List Char} :
    List.Forall₂ CharsAlike first second ↔
      first.map (swapChar '-' '_') = second.map (swapChar '-' '_') := by
  have same : CharsAlike = fun c d => swapChar '-' '_' c = swapChar '-' '_' d :=
    funext₂ fun _ _ => propext charsAlike_iff
  rw [same, ← List.forall₂_eq_eq_eq, List.forall₂_map_left_iff, List.forall₂_map_right_iff]

theorem alike_iff {first second : String} :
    Alike first second ↔
      first.toList.map (swapChar '-' '_') = second.toList.map (swapChar '-' '_') :=
  forall₂_charsAlike_iff

instance (first second : String) : Decidable (Alike first second) :=
  decidable_of_iff _ alike_iff.symm

theorem Alike.symm {first second : String} (alike : Alike first second) : Alike second first :=
  alike_iff.mpr (alike_iff.mp alike).symm

theorem Alike.trans {first second third : String} (earlier : Alike first second)
    (later : Alike second third) : Alike first third :=
  alike_iff.mpr ((alike_iff.mp earlier).trans (alike_iff.mp later))

theorem alike_of_mem_spellings {key piece : String} (tried : key ∈ spellings piece) :
    Alike key piece := by
  have kept {old new : Char} (same : ∀ c, CharsAlike (swapChar old new c) c) :
      Alike (replaceChar old new piece) piece := by
    unfold Alike
    rw [toList_replaceChar, List.forall₂_map_left_iff, List.forall₂_same]
    exact fun c _ => same c
  simp only [spellings, List.mem_cons, List.not_mem_nil, or_false] at tried
  rcases tried with rfl | rfl | rfl
  · exact alike_iff.mpr rfl
  · exact kept fun c => by unfold CharsAlike swapChar; grind
  · exact kept fun c => by unfold CharsAlike swapChar; grind

/-- Letters without one of the two signs are found by replacing it in what is alike. -/
theorem map_swapChar_eq {old new : Char} (signs : old = '-' ∧ new = '_' ∨ old = '_' ∧ new = '-')
    {letters others : List Char} (absent : old ∉ letters)
    (alike : List.Forall₂ CharsAlike letters others) : others.map (swapChar old new) = letters := by
  induction alike with
  | nil => rfl
  | @cons c d letters others same _ ih =>
      obtain ⟨different, later⟩ := not_or.mp (mt List.mem_cons.mpr absent)
      have here : swapChar old new d = c := by
        unfold CharsAlike at same
        unfold swapChar
        grind
      rw [List.map_cons, here, ih later]

/-- A key that does not have both signs is tried for every piece that is alike. -/
theorem mem_spellings_of_alike {key piece : String}
    (uniform : ¬('-' ∈ key.toList ∧ '_' ∈ key.toList)) (alike : Alike key piece) :
    key ∈ spellings piece := by
  have found {old new : Char} (signs : old = '-' ∧ new = '_' ∨ old = '_' ∧ new = '-')
      (absent : old ∉ key.toList) : replaceChar old new piece = key := by
    rw [← String.toList_inj, toList_replaceChar]
    exact map_swapChar_eq signs absent alike
  unfold spellings
  rcases not_and_or.mp uniform with noHyphen | noUnderscore
  · rw [found (.inl ⟨rfl, rfl⟩) noHyphen]
    simp
  · rw [found (.inr ⟨rfl, rfl⟩) noUnderscore]
    simp

section Entries

variable {entries : Entries Value} (clear : ClearlySpelled entries)

include clear

theorem ClearlySpelled.eq_of_alike {first second : String} (isFirst : first ∈ entries.keys)
    (isSecond : second ∈ entries.keys) (alike : Alike first second) : first = second := by
  by_contra different
  have symmetric : Std.Symm (¬Alike · ·) := ⟨fun _ _ apart alike => apart alike.symm⟩
  exact clear.apart.forall isFirst isSecond different alike

theorem ClearlySpelled.findSome?_eq_some_iff {piece : String} {child : Value} :
    (spellings piece).findSome? entries.get? = some child ↔
      ∃ key, Alike key piece ∧ entries.get? key = some child := by
  have present {key : String} {value : Value} (found : entries.get? key = some value) :
      key ∈ entries.keys := List.mem_map_of_mem (Entries.mem_of_get? found)
  constructor
  · intro found
    obtain ⟨key, tried, isChild⟩ := List.exists_of_findSome?_eq_some found
    exact ⟨key, alike_of_mem_spellings tried, isChild⟩
  · rintro ⟨key, alike, isChild⟩
    have tried := mem_spellings_of_alike (clear.uniform key (present isChild)) alike
    cases found : (spellings piece).findSome? entries.get? with
    | none =>
        rw [List.findSome?_eq_none_iff.mp found key tried] at isChild
        cases isChild
    | some other =>
        obtain ⟨another, alsoTried, isOther⟩ := List.exists_of_findSome?_eq_some found
        have same : another = key := clear.eq_of_alike (present isOther) (present isChild)
          ((alike_of_mem_spellings alsoTried).trans alike.symm)
        rw [← isOther, same, isChild]

end Entries

theorem position?_eq_none_of_sign {piece : String} {sign : Char} (isSign : sign = '-' ∨ sign = '_')
    (found : sign ∈ piece.toList) : position? piece = none := by
  have noDigit : digitValue? 10 sign = none := by rcases isSign with rfl | rfl <;> rfl
  unfold position?
  split
  · rename_i digits same
    rw [same] at found
    have noPlus : sign ≠ '+' := by rcases isSign with rfl | rfl <;> decide
    exact natInBase?_eq_none noDigit ((List.mem_cons.mp found).resolve_left noPlus)
  · exact natInBase?_eq_none noDigit found

theorem position?_replaceChar (piece : String) :
    position? (replaceChar '-' '_' piece) = position? piece := by
  by_cases found : '-' ∈ piece.toList
  · rw [position?_eq_none_of_sign (.inl rfl) found]
    refine position?_eq_none_of_sign (.inr rfl) ?_
    rw [toList_replaceChar]
    exact List.mem_map_of_mem (f := swapChar '-' '_') found
  · have same : replaceChar '-' '_' piece = piece := by
      rw [← String.toList_inj, toList_replaceChar]
      refine (List.map_congr_left fun c inside => ?_).trans (List.map_id piece.toList)
      exact if_neg fun (isHyphen : c = '-') => found (isHyphen ▸ inside)
    rw [same]

theorem position?_of_alike {first second : String} (alike : Alike first second) :
    position? first = position? second := by
  have same : replaceChar '-' '_' first = replaceChar '-' '_' second := by
    rw [← String.toList_inj, toList_replaceChar, toList_replaceChar, alike_iff.mp alike]
  rw [← position?_replaceChar first, same, position?_replaceChar]

namespace Value

variable {value : Value}

theorem child?_of_alike (clear : value.EachMapping ClearlySpelled) {first second : String}
    (alike : Alike first second) : value.child? first = value.child? second := by
  cases clear with
  | mapping suited each =>
      refine Option.ext fun child => ?_
      refine suited.findSome?_eq_some_iff.trans (Iff.trans ?_ suited.findSome?_eq_some_iff.symm)
      constructor
      · rintro ⟨key, isFirst, found⟩
        exact ⟨key, isFirst.trans alike, found⟩
      · rintro ⟨key, isSecond, found⟩
        exact ⟨key, isSecond.trans alike.symm, found⟩
  | sequence each =>
      unfold child?
      rw [position?_of_alike alike]
  | scalar noEntries noItems =>
      cases value with
      | mapping entries => cases noEntries
      | sequence items => cases noItems
      | _ => rfl

theorem EachMapping.child? {suits : Entries Value → Prop} (all : value.EachMapping suits)
    {piece : String} {child : Value} (found : value.child? piece = some child) :
    child.EachMapping suits := by
  cases all with
  | mapping suited each =>
      obtain ⟨key, -, isChild⟩ := List.exists_of_findSome?_eq_some found
      exact each (key, child) (Entries.mem_of_get? isChild)
  | sequence each =>
      obtain ⟨position, -, isChild⟩ := Option.bind_eq_some_iff.mp found
      exact each child (List.mem_of_getElem? isChild)
  | scalar noEntries noItems =>
      cases value with
      | mapping entries => cases noEntries
      | sequence items => cases noItems
      | _ => cases found

theorem foldlM_child?_of_alike (clear : value.EachMapping ClearlySpelled)
    {first second : List String} (alike : List.Forall₂ Alike first second) :
    first.foldlM Value.child? value = second.foldlM Value.child? value := by
  induction alike generalizing value with
  | nil => rfl
  | cons here later ih =>
      rw [List.foldlM_cons, List.foldlM_cons, child?_of_alike clear here]
      cases found : value.child? _ with
      | none => rfl
      | some child => exact ih (clear.child? found)

end Value

namespace Text

variable {first second : String}

/-- White space and full stops are not among the signs that are exchanged. -/
theorem alike_trimmed (alike : Alike first second) : Alike (trimmed first) (trimmed second) := by
  have keeps (c : Char) : isSpace (swapChar '-' '_' c) = isSpace c := by
    unfold swapChar
    split
    · rename_i isHyphen
      rw [isHyphen]
      rfl
    · rfl
  rw [alike_iff] at alike ⊢
  unfold trimmed
  rw [String.toList_ofList, String.toList_ofList, ← trim_map keeps, ← trim_map keeps, alike]

theorem forall₂_alike_pieces (alike : Alike first second) :
    List.Forall₂ Alike (pieces '.' first) (pieces '.' second) := by
  have keeps (c : Char) : swapChar '-' '_' c = '.' ↔ c = '.' := by
    unfold swapChar
    grind
  have same : (cut '.' first.toList).map (List.map (swapChar '-' '_')) =
      (cut '.' second.toList).map (List.map (swapChar '-' '_')) := by
    rw [← cut_map keeps, ← cut_map keeps, alike_iff.mp alike]
  unfold pieces
  rw [List.forall₂_map_left_iff, List.forall₂_map_right_iff]
  rw [← List.forall₂_eq_eq_eq, List.forall₂_map_left_iff, List.forall₂_map_right_iff] at same
  refine same.imp fun piece other equal => ?_
  rw [alike_iff, String.toList_ofList, String.toList_ofList, equal]

theorem trimmed_eq_empty_iff (alike : Alike first second) :
    trimmed first = "" ↔ trimmed second = "" := by
  have lengths := List.Forall₂.length_eq (alike_trimmed alike)
  simp only [← String.toList_eq_nil_iff, ← List.length_eq_zero_iff, lengths]

end Text

namespace Config

/--
Where no key has both signs and no two keys of a mapping are alike, paths that are alike lead to the
same value, or there is no value at either of them.
-/
theorem getValue_of_alike (config : Config) (clear : config.toValue.EachMapping ClearlySpelled)
    {first second : String} (alike : Alike first second) :
    (∃ value, config.getValue first = .ok value ∧ config.getValue second = .ok value) ∨
      (config.getValue first = .error (.ofCause (.missingKey (Text.trimmed first))) ∧
        config.getValue second = .error (.ofCause (.missingKey (Text.trimmed second)))) := by
  by_cases none : Text.trimmed first = ""
  · have alsoNone := (Text.trimmed_eq_empty_iff alike).mp none
    exact .inl ⟨config.toValue, getValue_of_empty none, getValue_of_empty alsoNone⟩
  · have alsoSome := mt (Text.trimmed_eq_empty_iff alike).mpr none
    have same := Value.foldlM_child?_of_alike clear
      (Text.forall₂_alike_pieces (Text.alike_trimmed alike))
    rw [getValue_of_ne_empty none, getValue_of_ne_empty alsoSome, same]
    cases (Text.pieces '.' (Text.trimmed second)).foldlM Value.child? config.toValue with
    | some value => exact .inl ⟨value, rfl, rfl⟩
    | none => exact .inr ⟨rfl, rfl⟩

/-- Pieces that have both signs, in front of a position and behind it. -/
theorem getValue_of_alike_with_both_signs :
    let inner : Value := .mapping [("x_y_z", .bool true), ("x", .null)]
    let config : Config := ⟨[("fit-kwds", .sequence [.null, inner])], none⟩
    Alike "fit-kwds.1.x-y_z" "fit_kwds.1.x_y-z" ∧
      config.getValue "fit-kwds.1.x-y_z" = .ok (.bool true) ∧
      config.getValue "fit_kwds.1.x_y-z" = .ok (.bool true) := by
  intro inner config
  have leaf : Value.null.EachMapping ClearlySpelled := .scalar rfl rfl
  have switch : (Value.bool true).EachMapping ClearlySpelled := .scalar rfl rfl
  have innerClear : inner.EachMapping ClearlySpelled :=
    .mapping ⟨by decide, by decide⟩ (by simp [leaf, switch])
  have items : (Value.sequence [.null, inner]).EachMapping ClearlySpelled :=
    .sequence (by simp [leaf, innerClear])
  have clear : config.toValue.EachMapping ClearlySpelled :=
    .mapping ⟨by decide, by decide⟩ (by simp [config, items])
  have alike : Alike "fit-kwds.1.x-y_z" "fit_kwds.1.x_y-z" := by decide
  have found : config.getValue "fit_kwds.1.x_y-z" = .ok (.bool true) := by rfl
  rcases getValue_of_alike config clear alike with ⟨value, isFirst, isSecond⟩ | ⟨-, isSecond⟩
  · cases isSecond.symm.trans found
    exact ⟨alike, isFirst, isSecond⟩
  · cases isSecond.symm.trans found

end Config

end TaggedConfig
