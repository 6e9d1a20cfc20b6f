import TaggedConfig.Proofs.Overrides

/-!
# Overrides that are applied again

Applying the same overrides a second time changes nothing, although a key may have several of them
and a later one may discard what an earlier one was merged into.  The values that are given for one
key are merged one after the other.  If one of them is no mapping, what was there before it does not
matter.  Otherwise all their entries are written one after the other, which is the same question for
the values of each key inside, and these are smaller.
-/

namespace TaggedConfig

namespace Value

def valuesUnder (entries : List (String × Value)) (key : String) : List Value :=
  (entries.filter (·.1 = key)).map Prod.snd

theorem mem_of_mem_valuesUnder {entries : List (String × Value)} {key : String} {value : Value}
    (found : value ∈ valuesUnder entries key) : (key, value) ∈ entries := by
  obtain ⟨⟨name, _⟩, kept, rfl⟩ := List.mem_map.mp found
  obtain ⟨isEntry, named⟩ := List.mem_filter.mp kept
  have same : name = key := of_decide_eq_true named
  exact same ▸ isEntry

theorem valuesUnder_eq_nil {entries : List (String × Value)} {key : String}
    (absent : key ∉ entries.map Prod.fst) : valuesUnder entries key = [] := by
  refine List.eq_nil_iff_forall_not_mem.mpr fun value found => absent ?_
  exact List.mem_map_of_mem (mem_of_mem_valuesUnder found)

/-- Keys keep their places, and new ones follow in the order of their first entry. -/
theorem keys_mergeEntries_eraseDups (existing : Entries Value) (incoming : List (String × Value)) :
    (mergeEntries existing incoming).keys = existing.keys ++
      ((incoming.map Prod.fst).filter (· ∉ existing.keys)).eraseDups := by
  obtain ⟨written, keys, same⟩ := exists_mergeEntries_eq_putAll existing incoming
  rw [same, Entries.keys_putAll, keys]

/-- Each key has its value merged with those that are given for it, one after the other. -/
theorem get?_mergeEntries_eq_foldl (existing : Entries Value) (incoming : List (String × Value))
    (key : String) :
    (mergeEntries existing incoming).get? key =
      (valuesUnder incoming key).foldl
        (fun present value => mergeOptional merge present (some value)) (existing.get? key) := by
  induction incoming generalizing existing with
  | nil =>
      rw [mergeEntries]
      rfl
  | cons entry rest ih =>
      obtain ⟨name, value⟩ := entry
      rw [mergeEntries, ih, Entries.get?_put]
      unfold valuesUnder
      by_cases here : name = key
      · subst here
        rw [if_pos rfl, List.filter_cons_of_pos (by simp), List.map_cons, List.foldl_cons]
        cases existing.get? name <;> rfl
      · rw [if_neg here, List.filter_cons_of_neg (by simpa using here)]

theorem foldl_mergeOptional (present : Option Value) {values : List Value} (given : values ≠ []) :
    values.foldl (fun present value => mergeOptional merge present (some value)) present =
      some (values.foldl merge (present.getD .null)) := by
  obtain ⟨first, rest, rfl⟩ := List.exists_cons_of_ne_nil given
  have merged : mergeOptional merge present (some first) =
      some (merge (present.getD .null) first) := by
    cases present with
    | some value => rfl
    | none => exact congrArg some (merge_of_no_mapping .null first (.inl rfl)).1.symm
  rw [List.foldl_cons, merged, List.foldl_cons]
  exact List.foldl_hom some fun _ _ => rfl

/-- Entries are merged again without a change if this is so for the values of each key. -/
theorem mergeEntries_again {existing : Entries Value} {incoming : List (String × Value)}
    (distinct : existing.keys.Nodup)
    (again : ∀ key, let values := valuesUnder incoming key
      let once := values.foldl merge ((existing.get? key).getD .null)
      values.foldl merge once = once) :
    mergeEntries (mergeEntries existing incoming) incoming = mergeEntries existing incoming := by
  refine Entries.eq_of_get?_eq (nodup_mergeEntries (nodup_mergeEntries distinct _) _) ?_ ?_
  · have known :
        (incoming.map Prod.fst).filter (· ∉ (mergeEntries existing incoming).keys) = [] := by
      refine List.filter_eq_nil_iff.mpr fun key given => ?_
      rw [keys_mergeEntries_eraseDups, decide_eq_true_eq, not_not, List.mem_append]
      by_cases present : key ∈ existing.keys
      · exact .inl present
      · refine .inr (List.mem_eraseDups.mpr (List.mem_filter.mpr ⟨given, ?_⟩))
        exact decide_eq_true present
    rw [keys_mergeEntries_eraseDups (mergeEntries existing incoming), known]
    exact List.append_nil _
  · intro key
    rw [get?_mergeEntries_eq_foldl (mergeEntries existing incoming),
      get?_mergeEntries_eq_foldl existing]
    by_cases none : valuesUnder incoming key = []
    · rw [none]
      rfl
    · rw [foldl_mergeOptional _ none, foldl_mergeOptional _ none]
      exact congrArg some (again key)

def entriesOf (values : List Value) : List (String × Value) :=
  values.flatMap fun value => value.entries?.getD []

theorem exists_of_mem_entriesOf {values : List Value} {entry : String × Value}
    (found : entry ∈ entriesOf values) : ∃ entries, .mapping entries ∈ values ∧ entry ∈ entries := by
  obtain ⟨value, isValue, inside⟩ := List.mem_flatMap.mp found
  cases value with
  | mapping entries => exact ⟨entries, isValue, inside⟩
  | _ => cases inside

theorem sizeOf_lt_of_mem_entries {entries : Entries Value} {entry : String × Value}
    (found : entry ∈ entries) : sizeOf entry.2 < sizeOf (Value.mapping entries) := by
  have inside := List.sizeOf_lt_of_mem found
  obtain ⟨key, value⟩ := entry
  simp only [Prod.mk.sizeOf_spec] at inside
  simp only [mapping.sizeOf_spec]
  omega

theorem foldl_merge_mapping (existing : Entries Value) {values : List Value}
    (mappings : ∀ value ∈ values, value.entries? ≠ none) :
    values.foldl merge (.mapping existing) =
      .mapping (mergeEntries existing (entriesOf values)) := by
  induction values generalizing existing with
  | nil =>
      rw [entriesOf, List.flatMap_nil, mergeEntries]
      rfl
  | cons value rest ih =>
      obtain ⟨isMapping, others⟩ := List.forall_mem_cons.mp mappings
      cases value with
      | mapping entries =>
          rw [List.foldl_cons, merge, ih _ others, ← mergeEntries_append]
          rfl
      | _ => exact absurd rfl isMapping

theorem merge_empty {entries : Entries Value} (fits : (Value.mapping entries).DistinctKeys) :
    merge (.mapping []) (.mapping entries) = .mapping entries := by
  have empty : (Value.mapping []).DistinctKeys := distinctKeys_mapping List.nodup_nil (by simp)
  rw [(merge_eq_deepMerge fits empty).1, deepMerge, deepMergeShared, List.nil_append]
  exact congrArg Value.mapping (List.filter_eq_self.mpr (by simp))

theorem foldl_merge_of_other {values : List Value} {other : Value} (found : other ∈ values)
    (noMapping : other.entries? = none) (first second : Value) :
    values.foldl merge first = values.foldl merge second := by
  obtain ⟨before, after, rfl⟩ := List.append_of_mem found
  have replaced (before : Value) : merge before other = other :=
    (merge_of_no_mapping before other (.inr noMapping)).1
  rw [List.foldl_append, List.foldl_append, List.foldl_cons, List.foldl_cons, replaced, replaced]

/-- Mappings are merged as if a mapping had been there; anything else counts as the empty one. -/
theorem exists_foldl_merge_eq {values : List Value} (fits : ∀ value ∈ values, value.DistinctKeys)
    (mappings : ∀ value ∈ values, value.entries? ≠ none) (given : values ≠ []) {present : Value}
    (alike : present.DistinctKeys) :
    ∃ existing, (Value.mapping existing).DistinctKeys ∧
      values.foldl merge present = values.foldl merge (.mapping existing) := by
  cases alike with
  | mapping distinct each => exact ⟨_, .mapping distinct each, rfl⟩
  | other noMapping =>
      refine ⟨[], distinctKeys_mapping List.nodup_nil (by simp), ?_⟩
      obtain ⟨first, rest, rfl⟩ := List.exists_cons_of_ne_nil given
      have isMapping := mappings first List.mem_cons_self
      cases first with
      | mapping entries =>
          rw [List.foldl_cons, List.foldl_cons, merge_empty (fits _ List.mem_cons_self),
            (merge_of_no_mapping present _ (.inl noMapping)).1]
      | _ => exact absurd rfl isMapping

/-- What values have under a key inside of them repeats no key, and is smaller than one of them. -/
theorem of_mem_valuesUnder_entriesOf {values : List Value}
    (fits : ∀ value ∈ values, value.DistinctKeys) {key : String} {value : Value}
    (found : value ∈ valuesUnder (entriesOf values) key) :
    value.DistinctKeys ∧ ∃ outer ∈ values, sizeOf value < sizeOf outer := by
  obtain ⟨entries, given, isEntry⟩ := exists_of_mem_entriesOf (mem_of_mem_valuesUnder found)
  refine ⟨?_, .mapping entries, given, sizeOf_lt_of_mem_entries isEntry⟩
  cases fits _ given with
  | other other => cases other
  | mapping distinct each => exact each key value (Entries.get?_of_mem distinct isEntry)

/-- What is under a key of a mapping that repeats no key repeats none; a missing key counts as null. -/
theorem distinctKeys_getD {entries : Entries Value}
    (each : ∀ key value, entries.get? key = some value → DistinctKeys value) (key : String) :
    ((entries.get? key).getD .null).DistinctKeys := by
  cases found : entries.get? key with
  | some value => exact each key value found
  | none => exact .other rfl

/-- Values that are merged one after the other are merged again without a change. -/
theorem foldl_merge_again {values : List Value} (fits : ∀ value ∈ values, value.DistinctKeys)
    {present : Value} (alike : present.DistinctKeys) :
    values.foldl merge (values.foldl merge present) = values.foldl merge present := by
  obtain ⟨size, smaller⟩ : ∃ size, ∀ value ∈ values, sizeOf value < size :=
    ⟨sizeOf values, fun _ => List.sizeOf_lt_of_mem⟩
  induction size generalizing values present with
  | zero =>
      have none : values = [] := List.eq_nil_iff_forall_not_mem.mpr fun value found =>
        Nat.not_lt_zero _ (smaller value found)
      rw [none]
      rfl
  | succ size ih =>
      by_cases mappings : ∀ value ∈ values, value.entries? ≠ none
      · by_cases none : values = []
        · rw [none]
          rfl
        · obtain ⟨existing, isAlike, same⟩ := exists_foldl_merge_eq fits mappings none alike
          cases isAlike with
          | other other => cases other
          | mapping distinct each =>
              rw [same, foldl_merge_mapping existing mappings, foldl_merge_mapping _ mappings]
              refine congrArg Value.mapping (mergeEntries_again distinct fun key => ?_)
              refine ih (fun value found => (of_mem_valuesUnder_entriesOf fits found).1)
                (distinctKeys_getD each key) fun value found => ?_
              obtain ⟨outer, given, inside⟩ := (of_mem_valuesUnder_entriesOf fits found).2
              exact Nat.lt_of_lt_of_le inside (Nat.le_of_lt_succ (smaller outer given))
      · obtain ⟨other, given, noMapping⟩ : ∃ other ∈ values, other.entries? = none := by
          simpa using mappings
        exact foldl_merge_of_other given noMapping _ _

end Value

namespace Config

/--
Overrides that are applied a second time change nothing, whatever keys they repeat: every value and
the order of the keys at every depth stay as they are.
-/
theorem withOverrides_again (config : Config) (overrides : List (String × Value))
    (alike : config.toValue.DistinctKeys)
    (fits : ∀ override ∈ overrides, override.2.DistinctKeys) :
    (config.withOverrides overrides).withOverrides overrides = config.withOverrides overrides := by
  cases alike with
  | other other => cases other
  | mapping distinct each =>
      refine congrArg (Config.mk · config.origin) (Value.mergeEntries_again distinct fun key => ?_)
      exact Value.foldl_merge_again
        (fun value found => fits (key, value) (Value.mem_of_mem_valuesUnder found))
        (Value.distinctKeys_getD each key)

/-- A key is given a mapping, then something else, then mappings that are merged with each other. -/
theorem withOverrides_again_of_repeated_key :
    let config : Config := ⟨[("a", .mapping [("x", .null)]), ("b", .null)], none⟩
    let overrides : List (String × Value) :=
      [("a", .mapping [("y", .null)]), ("b", .mapping [("x", .null)]), ("a", .bool true),
        ("a", .mapping [("z", .null)]), ("b", .mapping [("w", .null)]),
        ("a", .mapping [("z", .mapping [("x", .null)])]), ("c", .null)]
    (config.withOverrides overrides).withOverrides overrides = config.withOverrides overrides ∧
      (config.withOverrides overrides).values =
        [("a", .mapping [("z", .mapping [("x", .null)])]),
          ("b", .mapping [("x", .null), ("w", .null)]), ("c", .null)] := by
  intro config overrides
  have leaf : Value.null.DistinctKeys := .other rfl
  have single (key : String) {value : Value} (fits : value.DistinctKeys) :
      (Value.mapping [(key, value)]).DistinctKeys :=
    @Value.distinctKeys_single (key, value) fits
  have switch : (Value.bool true).DistinctKeys := .other rfl
  have alike : config.toValue.DistinctKeys :=
    Value.distinctKeys_mapping (by decide) (by simp [config, single, leaf])
  have fits : ∀ override ∈ overrides, override.2.DistinctKeys := by
    simp [overrides, single, leaf, switch]
  exact ⟨withOverrides_again config overrides alike fits, rfl⟩

end Config

end TaggedConfig
