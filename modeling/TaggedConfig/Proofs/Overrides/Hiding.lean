import TaggedConfig.Proofs.DottedPaths.Spelling
import TaggedConfig.Proofs.Overrides.Again

/-!
# Overrides that hide a mapping

An override is written under its key as it is, but a path finds a mapping under other spellings of
the key as well.  A mapping that is given for the key of a mapping is merged into it, and what it does
not mention stays where it was.  One that is given for another spelling is an entry of its own; where
this spelling is tried first, it hides the mapping with everything that it does not mention.
-/

namespace TaggedConfig

/-- What is found first is found first among less, if it is still wanted. -/
theorem find?_of_imp {α : Type} {wanted remaining : α → Prop} [DecidablePred wanted]
    [DecidablePred remaining] {list : List α} {found : α}
    (isFirst : list.find? (wanted ·) = some found) (fits : remaining found)
    (less : ∀ other, remaining other → wanted other) :
    list.find? (remaining ·) = some found := by
  obtain ⟨-, before, after, same, unwanted⟩ := List.find?_eq_some_iff_append.mp isFirst
  refine List.find?_eq_some_iff_append.mpr
    ⟨decide_eq_true fits, before, after, same, fun other inside => ?_⟩
  have notWanted : ¬wanted other := by simpa using unwanted other inside
  simpa using mt (less other) notWanted

/-- The first of several keys that is present is the one whose value is found. -/
theorem Entries.findSome?_get? {α : Type} (entries : Entries α) (tried : List String) :
    tried.findSome? entries.get? = (tried.find? (· ∈ entries.keys)).bind entries.get? := by
  induction tried with
  | nil => rfl
  | cons key rest ih =>
      by_cases present : key ∈ entries.keys
      · rw [List.find?_cons_of_pos (by simpa using present), List.findSome?_cons, Option.bind_some]
        cases found : entries.get? key with
        | some value => rfl
        | none => exact absurd present ((get?_eq_none_iff entries key).mp found)
      · rw [List.find?_cons_of_neg (by simpa using present), List.findSome?_cons,
          (get?_eq_none_iff entries key).mpr present, ih]

/-- A key that is not among later entries keeps its value. -/
theorem Value.get?_mergeEntries_of_not_mem (existing : Entries Value)
    {incoming : List (String × Value)} {key : String} (absent : key ∉ incoming.map Prod.fst) :
    (mergeEntries existing incoming).get? key = existing.get? key := by
  rw [get?_mergeEntries_eq_foldl, valuesUnder_eq_nil absent]
  rfl

namespace Config

/--
An override of a key hides what a piece of a path leads to: no mapping is under the key, and it is
the first of the spellings of the piece that is a key once the override is written.
-/
structure Hides (config : Config) (key piece : String) : Prop where
  noMapping : ∀ present, config.values.get? key ≠ some (.mapping present)
  isFirst :
    (spellings piece).find? (fun spelling => spelling = key ∨ spelling ∈ config.values.keys) =
      some key

variable {config : Config} {key piece : String} {given : Entries Value}

theorem get?_withOverrides_mapping (config : Config) (key other : String) (given : Entries Value) :
    (config.withOverrides [(key, .mapping given)]).values.get? other =
      if key = other then some (Value.merge ((config.values.get? key).getD .null) (.mapping given))
      else config.values.get? other := by
  unfold withOverrides
  rw [Value.mergeEntries, Value.mergeEntries, Entries.get?_put]
  cases config.values.get? key with
  | some present => rfl
  | none => rfl

theorem mem_keys_withOverrides_single (config : Config) (override : String × Value)
    (other : String) :
    other ∈ (config.withOverrides [override]).values.keys ↔
      other = override.1 ∨ other ∈ config.values.keys := by
  unfold withOverrides
  rw [Value.mergeEntries, Value.mergeEntries, Entries.keys_put]
  split
  · rename_i present
    exact ⟨.inr, fun found => found.elim (fun same => same ▸ present) id⟩
  · rw [List.mem_append, List.mem_singleton, or_comm]

/-- The first of the spellings that is a key decides where a piece leads under the override. -/
theorem child?_withOverrides_mapping (config : Config) (key piece : String)
    (given : Entries Value) :
    (config.withOverrides [(key, .mapping given)]).toValue.child? piece =
      ((spellings piece).find? fun spelling => spelling = key ∨ spelling ∈ config.values.keys).bind
        (config.withOverrides [(key, .mapping given)]).values.get? := by
  refine (Entries.findSome?_get? _ (spellings piece)).trans ?_
  simp only [mem_keys_withOverrides_single]

/-- What hides leads to the override itself. -/
theorem Hides.child? (hides : config.Hides key piece) (given : Entries Value) :
    (config.withOverrides [(key, .mapping given)]).toValue.child? piece =
      some (.mapping given) := by
  have noEntries : ((config.values.get? key).getD .null).entries? = none := by
    cases found : config.values.get? key with
    | none => rfl
    | some value =>
        cases value with
        | mapping present => exact absurd found (hides.noMapping present)
        | _ => rfl
  rw [child?_withOverrides_mapping, hides.isFirst, Option.bind_some, get?_withOverrides_mapping,
    if_pos rfl, (Value.merge_of_no_mapping _ _ (.inl noEntries)).1]

/-- Where a piece leads somewhere, one of its spellings is found first; a key of old leads there. -/
theorem exists_first_spelling (key : String) {child : Value}
    (found : config.toValue.child? piece = some child) :
    ∃ first, (spellings piece).find? (fun spelling => spelling = key ∨ spelling ∈ config.values.keys) =
        some first ∧
      (first = key ∨ first ∈ config.values.keys) ∧
      (first ∈ config.values.keys → config.values.get? first = some child) := by
  obtain ⟨spelling, isKey, isChild⟩ :=
    Option.bind_eq_some_iff.mp ((Entries.findSome?_get? _ (spellings piece)).symm.trans found)
  cases chosen : (spellings piece).find? fun spelling =>
      spelling = key ∨ spelling ∈ config.values.keys with
  | none =>
      have tried := List.mem_of_find?_eq_some isKey
      have unwanted := List.find?_eq_none.mp chosen spelling tried
      have wanted := List.find?_some isKey
      grind
  | some first =>
      have wanted := List.find?_some chosen
      refine ⟨first, rfl, by simpa using wanted, fun present => ?_⟩
      have before := find?_of_imp chosen present fun _ => .inr
      rw [← isChild, Option.some_inj.mp (before.symm.trans isKey)]

/--
What is not hidden is as it was, or a mapping with the override merged into it; the override is of a
key that is alike then.
-/
theorem child?_of_not_hides (kept : ¬config.Hides key piece) (given : Entries Value) {child : Value}
    (found : config.toValue.child? piece = some child) :
    let result := (config.withOverrides [(key, .mapping given)]).toValue
    result.child? piece = some child ∨
      Alike key piece ∧ ∃ present, child = .mapping present ∧
        result.child? piece = some (.mapping (Value.mergeEntries present given)) := by
  intro result
  obtain ⟨first, chosen, isKey, asBefore⟩ := exists_first_spelling key found
  have reached : result.child? piece =
      (config.withOverrides [(key, .mapping given)]).values.get? first := by
    rw [child?_withOverrides_mapping, chosen, Option.bind_some]
  rw [reached, get?_withOverrides_mapping]
  by_cases same : first = key
  · subst same
    obtain ⟨present, isMapping⟩ : ∃ present, config.values.get? first = some (.mapping present) := by
      by_contra none
      exact kept ⟨fun present found => none ⟨present, found⟩, chosen⟩
    have isPresent := List.mem_map_of_mem (f := Prod.fst) (Entries.mem_of_get? isMapping)
    have alike := alike_of_mem_spellings (List.mem_of_find?_eq_some chosen)
    refine .inr ⟨alike, present, Option.some_inj.mp ((asBefore isPresent).symm.trans isMapping), ?_⟩
    rw [if_pos rfl, isMapping, Option.getD_some, Value.merge]
  · rw [if_neg (Ne.symm same), asBefore (isKey.resolve_left same)]
    exact .inl rfl

theorem not_mem_of_apart {piece spelling : String}
    (apart : ∀ other ∈ given.keys, ¬Alike other piece) (tried : spelling ∈ spellings piece) :
    spelling ∉ given.keys :=
  fun present => apart spelling present (alike_of_mem_spellings tried)

theorem child?_of_apart {piece : String} (apart : ∀ other ∈ given.keys, ¬Alike other piece) :
    (Value.mapping given).child? piece = none :=
  List.findSome?_eq_none_iff.mpr fun _ tried =>
    (Entries.get?_eq_none_iff given _).mpr (not_mem_of_apart apart tried)

theorem child?_mergeEntries_of_apart (present : Entries Value) {piece : String}
    (apart : ∀ other ∈ given.keys, ¬Alike other piece) :
    (Value.mapping (Value.mergeEntries present given)).child? piece =
      (Value.mapping present).child? piece := by
  have same : ∀ spelling ∈ spellings piece,
      (Value.mergeEntries present given).get? spelling = present.get? spelling := fun _ tried =>
    Value.get?_mergeEntries_of_not_mem present (not_mem_of_apart apart tried)
  unfold spellings at same
  simp only [List.forall_mem_cons] at same
  unfold Value.child? spellings
  simp only [List.findSome?_cons, List.findSome?_nil, same]

/--
A path that goes on behind its first piece leads to what it led to before a mapping override that is of
another key or does not mention the second piece, unless the override hides the first piece; then it
leads to nothing.  Where the first piece is the key of the override itself, the override hides it
exactly if no mapping is under this very key, and so whenever the mapping was found under another
spelling.
-/
theorem getValue_beside_mapping_override (config : Config) (key : String) (given : Entries Value)
    (path : String) (value : Value) (first second : String) (rest : List String)
    (parts : Text.pieces '.' (Text.trimmed path) = first :: second :: rest)
    (found : config.getValue path = .ok value)
    (apart : Alike key first → ∀ other ∈ given.keys, ¬Alike other second) :
    let result := config.withOverrides [(key, .mapping given)]
    (¬config.Hides key first → result.getValue path = .ok value) ∧
      (config.Hides key first →
        result.getValue path = .error (.ofCause (.missingKey (Text.trimmed path)))) ∧
      (first = key →
        (config.Hides key first ↔ ∀ present, config.values.get? key ≠ some (.mapping present))) := by
  intro result
  have some : Text.trimmed path ≠ "" := by
    intro none
    have single : Text.pieces '.' "" = [""] := rfl
    rw [none, single] at parts
    cases parts
  have before := (getValue_eq_ok_iff some).mp found
  rw [parts, List.foldlM_cons] at before
  obtain ⟨child, isFirst, before⟩ := Option.bind_eq_some_iff.mp before
  rw [List.foldlM_cons] at before
  refine ⟨fun kept => (getValue_eq_ok_iff some).mpr ?_, fun hides => ?_, ?_⟩
  · rw [parts, List.foldlM_cons]
    rcases child?_of_not_hides kept given isFirst with same | ⟨alike, present, rfl, merged⟩
    · exact Option.bind_eq_some_iff.mpr ⟨child, same, before⟩
    · refine Option.bind_eq_some_iff.mpr ⟨_, merged, ?_⟩
      rw [List.foldlM_cons, child?_mergeEntries_of_apart present (apart alike)]
      exact before
  · have alike := alike_of_mem_spellings (List.mem_of_find?_eq_some hides.isFirst)
    have lost : (first :: second :: rest).foldlM Value.child? result.toValue = none := by
      rw [List.foldlM_cons, hides.child? given, Option.bind_eq_bind, Option.bind_some,
        List.foldlM_cons, child?_of_apart (apart alike)]
      rfl
    rw [getValue_of_ne_empty some, parts, lost]
  · rintro rfl
    refine ⟨Hides.noMapping, fun noMapping => ⟨noMapping, ?_⟩⟩
    rw [spellings, List.find?_cons_of_pos (by simp)]

/-- An override with the other spelling of a key: only the path with that spelling is hidden. -/
theorem getValue_beside_mapping_override_of_two_spellings :
    let config : Config :=
      ⟨[("fit-kwds", .mapping [("epochs", .null), ("verbose", .bool true)])], none⟩
    let result := config.withOverrides [("fit_kwds", .mapping [("epochs", .bool false)])]
    result.getValue "fit-kwds.verbose" = .ok (.bool true) ∧
      result.getValue "fit_kwds.verbose" = .error (.ofCause (.missingKey "fit_kwds.verbose")) := by
  intro config result
  have apart : ∀ other ∈ Entries.keys [("epochs", Value.bool false)], ¬Alike other "verbose" := by
    decide
  obtain ⟨stays, -, -⟩ := getValue_beside_mapping_override config "fit_kwds" _ "fit-kwds.verbose"
    (.bool true) "fit-kwds" "verbose" [] (by decide) rfl fun _ => apart
  obtain ⟨-, isLost, hides⟩ := getValue_beside_mapping_override config "fit_kwds" _
    "fit_kwds.verbose" (.bool true) "fit_kwds" "verbose" [] (by decide) rfl fun _ => apart
  have kept : ¬config.Hides "fit_kwds" "fit-kwds" := fun hides =>
    absurd hides.isFirst (by decide)
  exact ⟨stays kept, isLost ((hides rfl).mpr fun _ found => by cases found)⟩

/-- A key leads to a mapping, but what an override of the key does not mention is missing afterwards. -/
theorem mapping_override_hides_other_entries :
    let config : Config :=
      ⟨[("fit-kwds", .mapping [("epochs", .integer 10), ("verbose", .bool true)])], none⟩
    let given : Entries Value := [("epochs", .integer 3)]
    config.getValue "fit_kwds" =
        .ok (.mapping [("epochs", .integer 10), ("verbose", .bool true)]) ∧
      config.getValue "fit_kwds.verbose" = .ok (.bool true) ∧
      (∀ other ∈ given.keys, ¬Alike other "verbose") ∧
      (config.withOverrides [("fit_kwds", .mapping given)]).getValue "fit_kwds.verbose" =
        .error (.ofCause (.missingKey "fit_kwds.verbose")) := by
  exact ⟨rfl, rfl, by decide, rfl⟩

end Config

end TaggedConfig
