import TaggedConfig.Proofs.Splicing.Reaching
import TaggedConfig.Proofs.TagEffects

/-!
# Selection of cases

The tag that selects by run mode resolves its mapping as if the tag were not there, and then looks up
one of its entries.  The run mode has no part in what the mapping does to variables, unless the mapping
selects or includes something itself.
-/

namespace TaggedConfig

namespace Loader

/-- The tags whose content can depend on the run mode, here or in another document. -/
def moded : List String := [Tag.switchCommand.name, Tag.includeFile.name]

/-- Of several extensions for one tag, the last one counts. -/
theorem ofOptions_append (before : List Extension) (last : Extension) (limit : Option Nat) :
    ofOptions (before ++ [last]) limit = ofOptions [last] limit := by
  have replaced (earlier : List Extension) : addExtension earlier last = [last] := by
    have none : earlier.filter (fun other => other.tag ≠ last.tag) = [] := by
      refine List.filter_eq_nil_iff.mpr fun other _ => ?_
      have same : other.tag = last.tag := by
        cases other
        cases last
        rfl
      simp [same]
    unfold addExtension
    rw [none, List.nil_append]
  unfold ofOptions
  rw [List.foldl_append, List.foldl_cons, List.foldl_nil, replaced]
  rfl

theorem tags_ofOptions {extensions : List Extension} (extended : extensions ≠ [])
    (limit : Option Nat) :
    (ofOptions extensions limit).tags = ⟨Tag.basic ++ [.switchCommand]⟩ := by
  rcases List.eq_nil_or_concat' extensions with rfl | ⟨before, last, rfl⟩
  · exact absurd rfl extended
  · rw [ofOptions_append]
    cases last
    rfl

theorem get?_switchCommand {extensions : List Extension} (extended : extensions ≠ [])
    (limit : Option Nat) :
    (ofOptions extensions limit).tags.get? Tag.switchCommand.name = some .switchCommand := by
  rw [tags_ofOptions extended]
  decide

/-- Apart from some tags, loaders with an extension ask for the same, whatever their run modes. -/
theorem asksAlike_extended {extensions others : List Extension} (extended : extensions ≠ [])
    (alsoExtended : others ≠ []) (limit : Option Nat) (host : Surroundings) (place : Path) :
    AsksAlike moded host (ofOptions extensions limit) (ofOptions others limit) place place where
  tags := (tags_ofOptions extended limit).trans (tags_ofOptions alsoExtended limit).symm
  asks tag input other := by
    cases tag with
    | switchCommand => exact absurd (by decide) other
    | _ => rfl
  documents := by decide

end Loader

section

variable {loader : Loader} {host : Surroundings} {here : Standpoint} {name : String}
  {entries : List (Yaml.Node × Yaml.Node)} {files : Dialogue.Files} {store left : Store}

theorem resolve_switch (known : loader.tags.get? (tagName name) = some .switchCommand) :
    (here.scope loader host).resolve (.tagged name (.mapping entries)) =
      ((here.scope loader host).resolve (.mapping entries)).bind fun input =>
        Resolving.ofExcept (Scope.selectCase loader.runMode input) :=
  resolve_tagged known

/-- Selecting a case leaves the store that the mapping leaves. -/
theorem run_switch (known : loader.tags.get? (tagName name) = some .switchCommand) :
    ((here.scope loader host).resolve (.tagged name (.mapping entries))).run files store =
      (match (((here.scope loader host).resolve (.mapping entries)).run files store).1 with
        | some (.ok input) =>
            some ((Scope.selectCase loader.runMode input).mapError Failure.here)
        | stopped => stopped,
      (((here.scope loader host).resolve (.mapping entries)).run files store).2) := by
  rw [resolve_switch known, Dialogue.run_bind]
  match ((here.scope loader host).resolve (.mapping entries)).run files store with
  | (some (.ok input), left) =>
      dsimp only
      cases Scope.selectCase loader.runMode input with
      | ok chosen => rfl
      | error cause => rfl
  | (some (.error failure), left) => rfl
  | (none, left) => rfl

theorem exists_cases_of_yields {value : Value}
    (yields : ((here.scope loader host).resolve (.mapping entries)).Yields files store value left) :
    ∃ cases, value = .mapping cases := by
  obtain ⟨list, middle, -, done⟩ := Dialogue.exists_of_yields_bind yields
  cases done
  exact ⟨_, rfl⟩

end

namespace Scope

variable {runMode : Option String} {cases : Entries Value} {chosen : Value}

theorem selectCase_of_mode {mode : String} (bound : runMode = some mode)
    (found : cases.get? mode = some chosen) :
    selectCase runMode (.mapping cases) = .ok chosen := by
  subst bound
  unfold selectCase
  dsimp only [Option.bind_some]
  rw [found]

/-- No case is found under the run mode if there is none for it, or no run mode. -/
theorem bind_get?_of_missing (missing : ∀ mode, runMode = some mode → cases.get? mode = none) :
    runMode.bind (Entries.get? cases) = none := by
  cases runMode with
  | none => rfl
  | some mode => exact missing mode rfl

theorem selectCase_of_default (missing : ∀ mode, runMode = some mode → cases.get? mode = none)
    (found : cases.get? "default" = some chosen) :
    selectCase runMode (.mapping cases) = .ok chosen := by
  unfold selectCase
  dsimp only
  rw [bind_get?_of_missing missing, found]

theorem selectCase_of_no_default (missing : ∀ mode, runMode = some mode → cases.get? mode = none)
    (absent : cases.get? "default" = none) :
    selectCase runMode (.mapping cases) = .error (.noMatchingCase runMode cases.keys) := by
  unfold selectCase
  dsimp only
  rw [bind_get?_of_missing missing, absent]

end Scope

/--
With an extension, the tag that selects a case leaves the store that its mapping leaves.  If the mapping
has a value, the tag yields the entry under the run mode, or else the default entry, or else fails with
the run mode and all keys in order.  If the mapping fails or does not end, the tag does as the mapping
does.  A mapping that reaches neither this tag nor another document leaves one store for all run modes.
-/
theorem Loader.switch_selects (extensions : List Extension) (extended : extensions ≠ [])
    (limit : Option Nat) (host : Surroundings) (files : Dialogue.Files) (here : Standpoint)
    (store : Store) (name : String) (named : tagName name = Tag.switchCommand.name)
    (entries : List (Yaml.Node × Yaml.Node)) :
    let loader := ofOptions extensions limit
    let mapping := (here.scope loader host).resolve (.mapping entries)
    let switch := (here.scope loader host).resolve (.tagged name (.mapping entries))
    (∀ value left, mapping.run files store = (some (.ok value), left) →
      ∃ cases : Entries Value, value = .mapping cases ∧
        (∀ mode chosen, loader.runMode = some mode → cases.get? mode = some chosen →
          switch.run files store = (some (.ok chosen), left)) ∧
        ((∀ mode, loader.runMode = some mode → cases.get? mode = none) →
          (∀ chosen, cases.get? "default" = some chosen →
            switch.run files store = (some (.ok chosen), left)) ∧
          (cases.get? "default" = none →
            switch.run files store =
              (some (.error (.here (.noMatchingCase loader.runMode cases.keys))), left)))) ∧
      (∀ failure left, mapping.run files store = (some (.error failure), left) →
        switch.run files store = (some (.error failure), left)) ∧
      (∀ left, mapping.run files store = (none, left) →
        switch.run files store = (none, left)) ∧
      (¬NodeReaches moded (.mapping entries) → ∀ others, others ≠ [] →
        (((here.scope (ofOptions others limit) host).resolve
            (.tagged name (.mapping entries))).run files store).2 =
          (switch.run files store).2) := by
  intro loader mapping switch
  have known {some : List Extension} (extended : some ≠ []) :
      (ofOptions some limit).tags.get? (tagName name) = .some .switchCommand := by
    rw [named]
    exact get?_switchCommand extended limit
  have ran : switch.run files store = _ := run_switch (known extended)
  refine ⟨fun value left valued => ?_, fun failure left failed => ?_, fun left endless => ?_,
    fun apart others alsoExtended => ?_⟩
  · obtain ⟨cases, rfl⟩ := exists_cases_of_yields valued
    rw [ran, valued]
    dsimp only
    refine ⟨cases, rfl, fun mode chosen bound found => ?_, fun missing => ⟨fun chosen found => ?_,
      fun absent => ?_⟩⟩
    · rw [Scope.selectCase_of_mode bound found]
      rfl
    · rw [Scope.selectCase_of_default missing found]
      rfl
    · rw [Scope.selectCase_of_no_default missing absent]
      rfl
  · rw [ran, failed]
  · rw [ran, endless]
  · rw [ran, run_switch (known alsoExtended)]
    have alike := asksAlike_extended alsoExtended extended limit host here.directory
    have same : (here.scope (ofOptions others limit) host).resolve (.mapping entries) = mapping :=
      resolve_congr alike apart
    rw [same]

/--
A variable is assigned under one key and read under another, and neither key is written as a text.  One
run mode selects the second case; another one and none at all have no case, but the variable stays.
-/
theorem Loader.switch_selects_of_boolean_key :
    let here : Standpoint := ⟨⟨"."⟩, 0⟩
    let entries : List (Yaml.Node × Yaml.Node) :=
      [(.integer 1, .tagged "!store" (.sequence [.string "k", .integer 5])),
        (.bool true, .string "$k")]
    let run (runMode : Option String) : Option (Except Failure Value) × Store :=
      ((here.scope (ofOptions [.switchCommand runMode] none) .atRoot).resolve
        (.tagged "!switchcmd" (.mapping entries))).run Dialogue.noFiles .empty
    run (some "true") = (some (.ok (.integer 5)), ⟨[("k", .integer 5)]⟩) ∧
      run (some "eval") = (some (.error (.here (.noMatchingCase (some "eval") ["1", "true"]))),
        ⟨[("k", .integer 5)]⟩) ∧
      (run none).2 = (run (some "true")).2 := by
  intro here entries run
  have ran (runMode : Option String) :
      ((here.scope (ofOptions [.switchCommand runMode] none) .atRoot).resolve
        (.mapping entries)).run Dialogue.noFiles .empty =
      (some (.ok (.mapping [("1", .integer 5), ("true", .integer 5)])),
        ⟨[("k", .integer 5)]⟩) := by
    cbv
  have noArrow {text : String} (short : text = "k" ∨ text = "$k") :
      Implicit.assignment? text = none := by
    obtain rfl | rfl := short <;> cbv
  have apart : ¬NodeReaches moded (.mapping entries) := by
    rintro (_ | _ | _ | _ | _ | ⟨member, inner⟩ | ⟨member, inner⟩)
    · obtain rfl | rfl := List.mem_pair.mp member <;> cases inner
    · obtain rfl | rfl := List.mem_pair.mp member
      · cases inner with
        | tag found => exact absurd found (by decide)
        | collection _ items =>
            cases items with
            | item member inner =>
                obtain rfl | rfl := List.mem_pair.mp member
                · cases inner with
                  | text assigned => cases (noArrow (.inl rfl)).symm.trans assigned
                · cases inner
      · cases inner with
        | text assigned => cases (noArrow (.inr rfl)).symm.trans assigned
  have selects (runMode : Option String) := switch_selects [.switchCommand runMode]
    (List.cons_ne_nil _ _) none .atRoot Dialogue.noFiles here .empty "!switchcmd" (by decide) entries
  refine ⟨?_, ?_, ?_⟩
  · obtain ⟨cases, same, found, -⟩ := (selects (some "true")).1 _ _ (ran _)
    cases same
    exact found "true" _ rfl rfl
  · obtain ⟨cases, same, -, missing⟩ := (selects (some "eval")).1 _ _ (ran _)
    cases same
    exact (missing fun mode bound => by cases bound; rfl).2 rfl
  · exact (selects (some "true")).2.2.2 apart [.switchCommand none] (List.cons_ne_nil _ _)

end TaggedConfig
