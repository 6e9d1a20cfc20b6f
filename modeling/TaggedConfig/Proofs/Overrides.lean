import Mathlib
import TaggedConfig.Config.Merging
import TaggedConfig.Proofs.Entries

/-!
# Overrides as a deep merge

Overrides are merged into a configuration by writing one entry after the other.  With distinct keys
this is the deep merge of two trees, which is defined here by recursion on the present tree: present
keys come first and in their order, keys that both have are merged, and new ones follow.
-/

namespace TaggedConfig

namespace Entries

variable {α : Type}

theorem eraseDups_of_nodup {list : List String} (distinct : list.Nodup) :
    list.eraseDups = list := by
  induction list with
  | nil => rfl
  | cons name rest ih =>
      obtain ⟨absent, distinct⟩ := List.nodup_cons.mp distinct
      have others : rest.filter (fun other => !other == name) = rest := by
        refine List.filter_eq_self.mpr fun other found => ?_
        have different : other ≠ name := fun same => absent (same ▸ found)
        simpa using different
      rw [List.eraseDups_cons, others, ih distinct]

/-- Keys keep their places, and distinct ones that are new follow. -/
theorem keys_putAll_of_nodup (entries : Entries α) {later : List (String × α)}
    (distinct : (later.map Prod.fst).Nodup) :
    (entries.putAll later).keys =
      entries.keys ++ (later.map Prod.fst).filter (· ∉ entries.keys) := by
  rw [keys_putAll, eraseDups_of_nodup (distinct.filter _)]

theorem get?_filter (entries : Entries α) (others : List String) (key : String) :
    get? (entries.filter fun entry => entry.1 ∉ others) key =
      if key ∈ others then none else entries.get? key := by
  induction entries with
  | nil => split <;> rfl
  | cons entry rest ih =>
      obtain ⟨name, value⟩ := entry
      rw [List.filter_cons]
      by_cases here : name = key
      · subst here
        by_cases known : name ∈ others
        · rw [if_neg (by simpa using known), ih]
          simp [known]
        · simp [known, get?]
      · split
        · rw [get?, if_neg here, ih, get?, if_neg here]
        · rw [ih, get?, if_neg here]

end Entries

namespace Value

/--
No mapping has a key twice, as far as mappings are nested in each other.  A mapping that is made by
assigning its keys never has, so this holds of every value of a document.
-/
inductive DistinctKeys : Value → Prop
  | other {value : Value} (other : value.entries? = none) : DistinctKeys value
  | mapping {entries : Entries Value} (distinct : entries.keys.Nodup)
      (each : ∀ key value, entries.get? key = some value → DistinctKeys value) :
      DistinctKeys (.mapping entries)

mutual

def deepMerge : (present incoming : Value) → Value
  | .mapping present, .mapping incoming =>
      .mapping
        (deepMergeShared present incoming ++
          incoming.filter fun entry => entry.1 ∉ Entries.keys present)
  | _, incoming => incoming

def deepMergeShared : (present incoming : Entries Value) → Entries Value
  | [], _ => []
  | (key, value) :: rest, incoming =>
      let merged :=
        match incoming.get? key with
        | some later => deepMerge value later
        | none => value
      (key, merged) :: deepMergeShared rest incoming

end

/-- The entries of a deep merge of two mappings. -/
def deepMergeEntries (present incoming : Entries Value) : Entries Value :=
  deepMergeShared present incoming ++ incoming.filter fun entry => entry.1 ∉ present.keys

/-- The value that is reached by a path of keys through nested mappings. -/
def at? (value : Value) : List String → Option Value
  | [] => some value
  | key :: rest =>
      match value with
      | .mapping entries => (Entries.get? entries key).bind (at? · rest)
      | _ => none

/--
A merge replaces the value at a path or one that it is inside of: at the path or at the beginning of it
both trees have a value, and one of the two is no mapping.
-/
def Replaces (incoming present : Value) (path : List String) : Prop :=
  ∃ before old new, before <+: path ∧ present.at? before = some old ∧
    incoming.at? before = some new ∧ (old.entries? = none ∨ new.entries? = none)

/-- A value stays as it is, or a mapping gets new keys behind those that it has. -/
inductive Grown : Value → Value → Prop
  | same (value : Value) : Grown value value
  | mapping {entries extended : Entries Value} (keys : entries.keys <+: extended.keys) :
      Grown (.mapping entries) (.mapping extended)

theorem Grown.trans {first second third : Value} (earlier : Grown first second)
    (later : Grown second third) : Grown first third := by
  cases earlier with
  | same => exact later
  | mapping keys =>
      cases later with
      | same => exact .mapping keys
      | mapping more => exact .mapping (keys.trans more)

/-- A mapping repeats no key if its keys are distinct and none of its values repeats one. -/
theorem distinctKeys_mapping {entries : Entries Value} (distinct : entries.keys.Nodup)
    (each : ∀ entry ∈ entries, entry.2.DistinctKeys) : (Value.mapping entries).DistinctKeys :=
  .mapping distinct fun key value found => each (key, value) (Entries.mem_of_get? found)

/-- Entries are merged by writing values under their keys. -/
theorem exists_mergeEntries_eq_putAll (existing incoming : Entries Value) :
    ∃ written : List (String × Value), written.map Prod.fst = incoming.map Prod.fst ∧
      mergeEntries existing incoming = existing.putAll written := by
  induction incoming generalizing existing with
  | nil => exact ⟨[], rfl, rfl⟩
  | cons entry rest ih =>
      obtain ⟨key, value⟩ := entry
      rw [mergeEntries]
      obtain ⟨written, keys, same⟩ := ih _
      exact ⟨(key, _) :: written, congrArg (key :: ·) keys, same⟩

/-- Keys keep their places, and new ones follow. -/
theorem keys_mergeEntries (existing : Entries Value) {incoming : Entries Value}
    (distinct : incoming.keys.Nodup) :
    (mergeEntries existing incoming).keys =
      existing.keys ++ incoming.keys.filter (· ∉ existing.keys) := by
  obtain ⟨written, keys, same⟩ := exists_mergeEntries_eq_putAll existing incoming
  rw [same, Entries.keys_putAll_of_nodup existing (keys ▸ distinct), keys]
  rfl

theorem nodup_mergeEntries {existing : Entries Value} (distinct : existing.keys.Nodup)
    (incoming : Entries Value) : (mergeEntries existing incoming).keys.Nodup := by
  obtain ⟨written, _, same⟩ := exists_mergeEntries_eq_putAll existing incoming
  rw [same]
  exact Entries.nodup_putAll distinct written

def mergeOptional (combine : Value → Value → Value) (present incoming : Option Value) :
    Option Value :=
  match present, incoming with
  | some value, some later => some (combine value later)
  | none, later => later
  | present, none => present

theorem get?_mergeEntries (existing : Entries Value) {incoming : Entries Value}
    (distinct : incoming.keys.Nodup) (key : String) :
    (mergeEntries existing incoming).get? key =
      mergeOptional merge (existing.get? key) (incoming.get? key) := by
  induction incoming generalizing existing with
  | nil =>
      rw [mergeEntries]
      cases existing.get? key <;> rfl
  | cons entry rest ih =>
      obtain ⟨name, value⟩ := entry
      obtain ⟨absent, distinct⟩ := List.nodup_cons.mp distinct
      rw [mergeEntries, ih _ distinct, Entries.get?_put, Entries.get?]
      by_cases here : name = key
      · subst here
        have last : Entries.get? rest name = none := (Entries.get?_eq_none_iff rest name).mpr absent
        rw [if_pos rfl, if_pos rfl, last]
        cases existing.get? name <;> rfl
      · rw [if_neg here, if_neg here]

theorem keys_deepMergeShared (present incoming : Entries Value) :
    (deepMergeShared present incoming).keys = present.keys := by
  induction present with
  | nil => rfl
  | cons entry rest ih => exact congrArg (entry.1 :: ·) ih

theorem keys_deepMergeEntries (present incoming : Entries Value) :
    (deepMergeEntries present incoming).keys =
      present.keys ++ incoming.keys.filter (· ∉ present.keys) := by
  have later : Entries.keys (incoming.filter fun entry => entry.1 ∉ present.keys) =
      incoming.keys.filter (· ∉ present.keys) := by
    unfold Entries.keys
    rw [List.filter_map]
    rfl
  calc
    (deepMergeEntries present incoming).keys =
        (deepMergeShared present incoming).keys ++
          Entries.keys (incoming.filter fun entry => entry.1 ∉ present.keys) := List.map_append
    _ = present.keys ++ incoming.keys.filter (· ∉ present.keys) := by
      rw [keys_deepMergeShared, later]

theorem get?_deepMergeShared (present incoming : Entries Value) (key : String) :
    (deepMergeShared present incoming).get? key =
      (present.get? key).map fun value => (incoming.get? key).elim value (deepMerge value) := by
  induction present with
  | nil => rfl
  | cons entry rest ih =>
      obtain ⟨name, value⟩ := entry
      rw [deepMergeShared, Entries.get?, Entries.get?]
      by_cases here : name = key
      · subst here
        rw [if_pos rfl, if_pos rfl]
        cases incoming.get? name <;> rfl
      · rw [if_neg here, if_neg here, ih]

theorem get?_deepMergeEntries (present incoming : Entries Value) (key : String) :
    (deepMergeEntries present incoming).get? key =
      mergeOptional deepMerge (present.get? key) (incoming.get? key) := by
  unfold deepMergeEntries
  rw [Entries.get?_append, get?_deepMergeShared, Entries.get?_filter]
  cases found : present.get? key with
  | none =>
      rw [if_neg ((Entries.get?_eq_none_iff present key).mp found)]
      cases incoming.get? key <;> rfl
  | some value => cases incoming.get? key <;> rfl

theorem mergeOptional_cases {combine : Value → Value → Value} {present incoming : Option Value}
    {value : Value} (merged : mergeOptional combine present incoming = some value) :
    present = some value ∨ incoming = some value ∨
      ∃ old new, present = some old ∧ incoming = some new ∧ value = combine old new := by
  match present, incoming with
  | some old, some new =>
      cases merged
      exact .inr (.inr ⟨old, new, rfl, rfl, rfl⟩)
  | none, some new => exact .inr (.inl merged)
  | some old, none => exact .inl merged
  | none, none => cases merged

/-- Where one of two values is no mapping, the later one replaces the other. -/
theorem merge_of_no_mapping (present incoming : Value)
    (unfit : present.entries? = none ∨ incoming.entries? = none) :
    merge present incoming = incoming ∧ deepMerge present incoming = incoming := by
  cases incoming with
  | mapping entries =>
      cases present with
      | mapping existing => rcases unfit with unfit | unfit <;> cases unfit
      | _ => exact ⟨rfl, rfl⟩
  | _ => cases present <;> exact ⟨rfl, rfl⟩

theorem merge_eq_deepMerge {incoming : Value} (fits : incoming.DistinctKeys) {present : Value}
    (alike : present.DistinctKeys) :
    merge present incoming = deepMerge present incoming ∧
      (merge present incoming).DistinctKeys := by
  induction fits generalizing present with
  | other other =>
      obtain ⟨replaced, deepReplaced⟩ := merge_of_no_mapping present _ (.inr other)
      rw [replaced, deepReplaced]
      exact ⟨rfl, .other other⟩
  | @mapping incoming distinct each ih =>
      cases alike with
      | other other =>
          obtain ⟨replaced, deepReplaced⟩ :=
            merge_of_no_mapping _ (.mapping incoming) (.inl other)
          rw [replaced, deepReplaced]
          exact ⟨rfl, .mapping distinct each⟩
      | @mapping existing existingDistinct existingEach =>
          have same : mergeEntries existing incoming = deepMergeEntries existing incoming := by
            refine Entries.eq_of_get?_eq (nodup_mergeEntries existingDistinct incoming) ?_ ?_
            · rw [keys_mergeEntries existing distinct, keys_deepMergeEntries]
            · intro key
              rw [get?_mergeEntries existing distinct, get?_deepMergeEntries]
              match old : existing.get? key, new : incoming.get? key with
              | some value, some later =>
                  exact congrArg some (ih key later new (existingEach key value old)).1
              | none, _ => rfl
              | some _, none => rfl
          refine ⟨congrArg Value.mapping same, .mapping ?_ fun key value found => ?_⟩
          · exact nodup_mergeEntries existingDistinct incoming
          · rw [get?_mergeEntries existing distinct] at found
            rcases mergeOptional_cases found with old | new | ⟨old, new, isOld, isNew, rfl⟩
            · exact existingEach key value old
            · exact each key value new
            · exact (ih key new isNew (existingEach key old isOld)).2

theorem distinctKeys_single {entry : String × Value} (fits : entry.2.DistinctKeys) :
    (Value.mapping [entry]).DistinctKeys :=
  distinctKeys_mapping (List.nodup_singleton _) (List.forall_mem_singleton.mpr fits)

theorem exists_of_not_replaces {present incoming : Value} {path : List String}
    (kept : ¬incoming.Replaces present path) :
    ∃ existing later, present = .mapping existing ∧ incoming = .mapping later := by
  have both : ¬(present.entries? = none ∨ incoming.entries? = none) := fun unfit =>
    kept ⟨[], present, incoming, List.nil_prefix, rfl, rfl, unfit⟩
  cases present with
  | mapping existing =>
      cases incoming with
      | mapping later => exact ⟨existing, later, rfl, rfl⟩
      | _ => exact absurd (.inr rfl) both
  | _ => exact absurd (.inl rfl) both

/-- What a merge does not replace stays at its place. -/
theorem at?_merge {present incoming old : Value} {path : List String}
    (fits : incoming.DistinctKeys) (found : present.at? path = some old)
    (kept : ¬incoming.Replaces present path) :
    ∃ new, (merge present incoming).at? path = some new ∧ Grown old new := by
  induction path generalizing present incoming with
  | nil =>
      obtain ⟨existing, later, rfl, rfl⟩ := exists_of_not_replaces kept
      cases found
      cases fits with
      | other other => cases other
      | mapping distinct each =>
          refine ⟨_, rfl, .mapping ?_⟩
          rw [keys_mergeEntries existing distinct]
          exact List.prefix_append _ _
  | cons key rest ih =>
      obtain ⟨existing, later, rfl, rfl⟩ := exists_of_not_replaces kept
      obtain ⟨child, presentChild, inside⟩ := Option.bind_eq_some_iff.mp found
      cases fits with
      | other other => cases other
      | mapping distinct each =>
          have merged := get?_mergeEntries existing distinct key
          rw [presentChild] at merged
          match incomingChild : Entries.get? later key with
          | none =>
              rw [incomingChild] at merged
              refine ⟨old, ?_, .same old⟩
              exact (congrArg (Option.bind · (at? · rest)) merged).trans inside
          | some value =>
              rw [incomingChild] at merged
              have keptInside : ¬value.Replaces child rest := by
                rintro ⟨before, first, second, isPrefix, isFirst, isSecond, unfit⟩
                refine kept ⟨key :: before, first, second, ?_, ?_, ?_, unfit⟩
                · exact List.cons_prefix_cons.mpr ⟨rfl, isPrefix⟩
                · exact (congrArg (Option.bind · (at? · before)) presentChild).trans isFirst
                · exact (congrArg (Option.bind · (at? · before)) incomingChild).trans isSecond
              obtain ⟨new, reached, grown⟩ := ih (each key value incomingChild) inside keptInside
              exact ⟨new, (congrArg (Option.bind · (at? · rest)) merged).trans reached, grown⟩

theorem mergeEntries_append (existing before after : Entries Value) :
    mergeEntries existing (before ++ after) = mergeEntries (mergeEntries existing before) after := by
  induction before generalizing existing with
  | nil => rw [List.nil_append, mergeEntries]
  | cons entry rest ih =>
      obtain ⟨key, value⟩ := entry
      rw [List.cons_append, mergeEntries, ih, mergeEntries]

end Value

namespace Config

theorem withOverrides_append (config : Config) (before : List (String × Value))
    (override : String × Value) :
    config.withOverrides (before ++ [override]) =
      (config.withOverrides before).withOverrides [override] :=
  congrArg (Config.mk · config.origin) (Value.mergeEntries_append config.values before [override])

theorem withOverrides_single {config : Config} {override : String × Value}
    (alike : config.toValue.DistinctKeys) (fits : override.2.DistinctKeys) :
    (config.withOverrides [override]).values =
        Value.deepMergeEntries config.values [override] ∧
      (config.withOverrides [override]).toValue.DistinctKeys := by
  obtain ⟨same, distinct⟩ := Value.merge_eq_deepMerge (Value.distinctKeys_single fits) alike
  exact ⟨Value.mapping.inj same, distinct⟩

variable {config : Config} {overrides : List (String × Value)}

theorem distinctKeys_withOverrides (alike : config.toValue.DistinctKeys)
    (fits : ∀ override ∈ overrides, override.2.DistinctKeys) :
    (config.withOverrides overrides).toValue.DistinctKeys := by
  induction overrides using List.reverseRecOn with
  | nil =>
      unfold withOverrides
      rw [Value.mergeEntries]
      exact alike
  | append_singleton before override ih =>
      obtain ⟨earlier, last⟩ := List.forall_mem_append.mp fits
      rw [withOverrides_append]
      exact (withOverrides_single (ih earlier) (last override List.mem_cons_self)).2

theorem values_withOverrides (alike : config.toValue.DistinctKeys)
    (fits : ∀ override ∈ overrides, override.2.DistinctKeys) :
    (config.withOverrides overrides).values =
      overrides.foldl (fun values override => Value.deepMergeEntries values [override])
        config.values := by
  induction overrides using List.reverseRecOn with
  | nil =>
      unfold withOverrides
      rw [Value.mergeEntries]
      rfl
  | append_singleton before override ih =>
      obtain ⟨earlier, last⟩ := List.forall_mem_append.mp fits
      have reached := distinctKeys_withOverrides alike earlier
      rw [withOverrides_append, List.foldl_append, ← ih earlier]
      exact (withOverrides_single reached (last override List.mem_cons_self)).1

/-- What no override replaces when its turn comes stays at its place. -/
theorem at?_withOverrides (fits : ∀ override ∈ overrides, override.2.DistinctKeys)
    {path : List String} {old : Value} (found : config.toValue.at? path = some old)
    (kept : ∀ before override after, overrides = before ++ override :: after →
      ¬(Value.mapping [override]).Replaces (config.withOverrides before).toValue path) :
    ∃ new, (config.withOverrides overrides).toValue.at? path = some new ∧ Value.Grown old new := by
  induction overrides using List.reverseRecOn with
  | nil =>
      unfold withOverrides
      rw [Value.mergeEntries]
      exact ⟨old, found, .same old⟩
  | append_singleton before override ih =>
      obtain ⟨earlier, last⟩ := List.forall_mem_append.mp fits
      obtain ⟨middle, reached, grown⟩ := ih earlier fun front other back same =>
        kept front other (back ++ [override]) (by rw [same, List.append_assoc, List.cons_append])
      obtain ⟨new, inside, more⟩ := Value.at?_merge
        (Value.distinctKeys_single (last override List.mem_cons_self)) reached
        (kept before override [] rfl)
      rw [withOverrides_append]
      exact ⟨new, inside, grown.trans more⟩

/--
Overrides are deep merges, one after the other.  No key is repeated afterwards, and what is not
replaced by an override when its turn comes is at its place: a mapping has the same keys in the same
order with new ones behind them, and everything else is the same.
-/
theorem withOverrides_merges_deeply (config : Config) (overrides : List (String × Value))
    (alike : config.toValue.DistinctKeys)
    (fits : ∀ override ∈ overrides, override.2.DistinctKeys) :
    let result := config.withOverrides overrides
    result.values =
        overrides.foldl (fun values override => Value.deepMergeEntries values [override])
          config.values ∧
      result.origin = config.origin ∧ result.toValue.DistinctKeys ∧
      ∀ path old, config.toValue.at? path = some old →
        (∀ before override after, overrides = before ++ override :: after →
          ¬(Value.mapping [override]).Replaces (config.withOverrides before).toValue path) →
        ∃ new, result.toValue.at? path = some new ∧ Value.Grown old new := by
  exact ⟨values_withOverrides alike fits, rfl, distinctKeys_withOverrides alike fits,
    fun _ _ => at?_withOverrides fits⟩

/-- A mapping is merged into one that has a key in common with it. -/
theorem withOverrides_merges_deeply_of_mapping :
    let config : Config := ⟨[("a", .mapping [("x", .null), ("y", .null)]), ("b", .null)], none⟩
    let override : String × Value := ("a", .mapping [("z", .null), ("y", .bool true)])
    (config.withOverrides [override]).values =
        [("a", .mapping [("x", .null), ("y", .bool true), ("z", .null)]), ("b", .null)] ∧
      ∃ new, (config.withOverrides [override]).toValue.at? ["a"] = some new ∧
        Value.Grown (.mapping [("x", .null), ("y", .null)]) new := by
  intro config override
  have leaf : Value.null.DistinctKeys := .other rfl
  have switch : (Value.bool true).DistinctKeys := .other rfl
  have present : Value.DistinctKeys (.mapping [("x", .null), ("y", .null)]) :=
    Value.distinctKeys_mapping (by decide) (by simp [leaf])
  have incoming : override.2.DistinctKeys :=
    Value.distinctKeys_mapping (by decide) (by simp [leaf, switch])
  have alike : config.toValue.DistinctKeys :=
    Value.distinctKeys_mapping (by decide) (by simp [config, present, leaf])
  have fits : ∀ given ∈ [override], given.2.DistinctKeys := List.forall_mem_singleton.mpr incoming
  have kept : ∀ before given after, [override] = before ++ given :: after →
      ¬(Value.mapping [given]).Replaces (config.withOverrides before).toValue ["a"] := by
    intro before given after same
    cases before with
    | cons first more => cases more <;> cases same
    | nil =>
        cases same
        rintro ⟨path, old, new, isPrefix, found, given, unfit⟩
        rcases List.prefix_cons_iff.mp isPrefix with rfl | ⟨rest, rfl, isNil⟩
        · cases found
          cases given
          rcases unfit with unfit | unfit <;> cases unfit
        · cases List.prefix_nil.mp isNil
          cases found
          cases given
          rcases unfit with unfit | unfit <;> cases unfit
  obtain ⟨values, -, -, places⟩ := withOverrides_merges_deeply config [override] alike fits
  exact ⟨values, places ["a"] _ rfl kept⟩

end Config

end TaggedConfig
