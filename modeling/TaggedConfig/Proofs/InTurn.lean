import Mathlib
import TaggedConfig.Proofs.Failing.Obstacles

/-!
# One document or many

A document whose root is a sequence runs like documents with its items as their roots, one after the
other.  It has a value if all of them have one, and otherwise it fails as the first of them does that
has none.
-/

namespace TaggedConfig

namespace Dialogue

variable {ε δ α β : Type} {files : Files}

/-- Dialogues have values one after the other, each from the store that the one before leaves. -/
inductive YieldInTurn (files : Files) : List (Dialogue ε α) → Store → List α → Store → Prop
  | nil (store : Store) : YieldInTurn files [] store [] store
  | cons {dialogue : Dialogue ε α} {rest : List (Dialogue ε α)} {store middle left : Store}
      {value : α} {values : List α} (first : dialogue.Yields files store value middle)
      (others : YieldInTurn files rest middle values left) :
      YieldInTurn files (dialogue :: rest) store (value :: values) left

theorem yieldInTurn_mapError_iff {ι : Type} (dialogue : ι → Dialogue ε α) (change : ε → δ)
    (items : List ι) (store left : Store) (values : List α) :
    YieldInTurn files (items.map fun item => (dialogue item).mapError change) store values left ↔
      YieldInTurn files (items.map dialogue) store values left := by
  induction items generalizing store values with
  | nil =>
      constructor
      · intro yields
        cases yields
        exact .nil _
      · intro yields
        cases yields
        exact .nil _
  | cons item rest ih =>
      constructor
      · intro yields
        cases yields with
        | cons first others => exact .cons first.of_mapError ((ih _ _).mp others)
      · intro yields
        cases yields with
        | cons first others => exact .cons (first.mapError change) ((ih _ _).mpr others)

/-- What follows a value starts from the store that is left with it. -/
theorem Yields.run_bind {dialogue : Dialogue ε α} {store middle : Store} {value : α}
    (yields : dialogue.Yields files store value middle) (continuation : α → Dialogue ε β) :
    (dialogue.bind continuation).run files store = (continuation value).run files middle := by
  have ran : dialogue.run files store = (some (.ok value), middle) := yields
  rw [Dialogue.run_bind, ran]

theorem run_bind_of_error {dialogue : Dialogue ε α} {store left : Store} {error : ε}
    (failed : dialogue.run files store = (some (.error error), left))
    (continuation : α → Dialogue ε β) :
    (dialogue.bind continuation).run files store = (some (.error error), left) := by
  rw [run_bind, failed]

theorem run_mapError_of_error {dialogue : Dialogue ε α} {store left : Store} {error : ε}
    (failed : dialogue.run files store = (some (.error error), left)) (change : ε → δ) :
    (dialogue.mapError change).run files store = (some (.error (change error)), left) := by
  rw [run_mapError, failed]
  rfl

end Dialogue

open Dialogue (YieldInTurn)

namespace Trail

theorem exists_foldl_extend (trail : Trail) {written : String} (begun : written ≠ "") :
    ∃ more, trail.foldl extend written = written ++ more := by
  induction trail generalizing written with
  | nil => exact ⟨"", String.append_empty.symm⟩
  | cons segment rest ih =>
      have step : ∃ text, extend written segment = written ++ text := by
        cases segment with
        | key text => exact ⟨"." ++ text, by simp [extend, begun, String.append_assoc]⟩
        | index position =>
            exact ⟨"[" ++ toString position ++ "]", by simp [extend, String.append_assoc]⟩
      obtain ⟨text, extended⟩ := step
      have longer : written ++ text ≠ "" := by simp [begun]
      obtain ⟨more, same⟩ := ih longer
      refine ⟨text ++ more, ?_⟩
      rw [List.foldl_cons, extended, same, String.append_assoc]

/-- The text of a trail that starts with a position starts with the position. -/
theorem exists_describe_index (position : Nat) (trail : Trail) :
    ∃ more, describe (.index position :: trail) = "[" ++ toString position ++ "]" ++ more := by
  have begun : "[" ++ toString position ++ "]" ≠ "" := by simp
  exact exists_foldl_extend trail begun

end Trail

namespace Scope

variable {scope : Scope} {onValueText : OnValueText} {files : Dialogue.Files}

theorem resolveItems_yields_iff (items : List Yaml.Node) (position : Nat) (store left : Store)
    (values : List Value) :
    (scope.resolveItems onValueText position items).Yields files store values left ↔
      YieldInTurn files (items.map (scope.resolveNode onValueText)) store values left := by
  induction items generalizing position store values with
  | nil =>
      constructor
      · intro yields
        cases yields
        exact .nil _
      · intro yields
        cases yields
        exact rfl
  | cons item rest ih =>
      constructor
      · intro yields
        obtain ⟨value, middle, itemRun, later⟩ := Dialogue.exists_of_yields_bind yields
        obtain ⟨others, last, restRun, done⟩ := Dialogue.exists_of_yields_bind later
        cases done
        exact .cons itemRun.of_mapError ((ih _ _ _).mp restRun)
      · intro yields
        cases yields with
        | cons first others =>
            exact (first.mapError _).bind (((ih (position + 1) _ _).mpr others).bind rfl)

theorem run_resolveItems_error {before after : List Yaml.Node} {item : Yaml.Node}
    {position : Nat} {store middle left : Store} {values : List Value} {failure : Failure}
    (earlier : YieldInTurn files (before.map (scope.resolveNode onValueText)) store values middle)
    (failed : (scope.resolveNode onValueText item).run files middle =
      (some (.error failure), left)) :
    (scope.resolveItems onValueText position (before ++ item :: after)).run files store =
      (some (.error (failure.under (.index (position + before.length)))), left) := by
  induction before generalizing position store values with
  | nil =>
      cases earlier
      exact Dialogue.run_bind_of_error (Dialogue.run_mapError_of_error failed _) _
  | cons first rest ih =>
      cases earlier with
      | cons yields others =>
          have later : (scope.resolveItems onValueText (position + 1) (rest ++ item :: after)).run
              files _ = (some (.error (failure.under (.index (position + 1 + rest.length)))), left) :=
            ih others
          rw [List.length_cons, Nat.add_comm rest.length, ← Nat.add_assoc]
          refine ((yields.mapError _).run_bind _).trans ?_
          exact Dialogue.run_bind_of_error later _

end Scope

namespace Loader

/--
A document with a sequence as its root has a value exactly if documents with the items as their roots
have values one after the other, and then it is the sequence of those.  If one of them is the first to
fail, the document fails with the same cause and leaves the same store; the place of its error starts
with the position of the item and goes on with the place in the item.
-/
theorem sequence_runs_in_turn (loader : Loader) (host : Surroundings) (files : Dialogue.Files)
    (store : Store) (directory : Path) (origin : Option Path) (items : List Yaml.Node) :
    let whole := (loader.resolveDocument host ⟨.sequence items, directory, origin⟩).run files store
    let alone (item : Yaml.Node) := loader.resolveDocument host ⟨item, directory, origin⟩
    (∀ value left, whole = (some (.ok value), left) ↔
        ∃ values, value = .sequence values ∧
          YieldInTurn files (items.map alone) store values left) ∧
      ∀ before item after values middle error left, items = before ++ item :: after →
        YieldInTurn files (before.map alone) store values middle →
          (alone item).run files middle = (some (.error error), left) →
            ∃ trail deeper more,
              error = ⟨⟨origin, Trail.describe trail⟩ :: deeper, error.cause⟩ ∧
              whole = (some (.error ⟨⟨origin, Trail.describe (.index before.length :: trail)⟩ ::
                deeper, error.cause⟩), left) ∧
              Trail.describe (.index before.length :: trail) =
                "[" ++ toString before.length ++ "]" ++ more := by
  intro whole alone
  let scope := loader.scopeFor host directory
    (loader.includeWith host (loader.resolveWithin host (loader.allowance host - 1) 1) 1 directory)
  have each : alone = fun item => (scope.resolve item).mapError (Failure.toError origin) :=
    funext fun item => resolveDocument_eq loader host ⟨item, directory, origin⟩
  have all : whole = ((scope.resolve (.sequence items)).mapError (Failure.toError origin)).run
      files store := congrArg (·.run files store) (congrFun each (.sequence items))
  rw [each, all]
  constructor
  · intro value left
    constructor
    · intro ran
      have yields : ((scope.resolve (.sequence items)).mapError (Failure.toError origin)).Yields
          files store value left := ran
      obtain ⟨values, middle, resolved, done⟩ := Dialogue.exists_of_yields_bind yields.of_mapError
      cases done
      refine ⟨values, rfl, (Dialogue.yieldInTurn_mapError_iff scope.resolve _ _ _ _ _).mpr ?_⟩
      exact (Scope.resolveItems_yields_iff items 0 store _ values).mp resolved
    · rintro ⟨values, rfl, yields⟩
      have apart := (Dialogue.yieldInTurn_mapError_iff scope.resolve _ _ _ _ _).mp yields
      have resolved := (Scope.resolveItems_yields_iff items 0 store left values).mpr apart
      have yields : (scope.resolve (.sequence items)).Yields files store (.sequence values) left :=
        resolved.bind rfl
      exact yields.mapError _
  · rintro before item after values middle error left rfl earlier failed
    have apart := (Dialogue.yieldInTurn_mapError_iff scope.resolve _ _ _ _ _).mp earlier
    obtain ⟨⟨trail, inner⟩, itemFailed, rfl⟩ := Dialogue.run_mapError_error failed
    obtain ⟨more, begins⟩ := Trail.exists_describe_index before.length trail
    refine ⟨trail, inner.locations, more, rfl, ?_, begins⟩
    have itemsFailed : (scope.resolveItems scope.resolveValueText 0 (before ++ item :: after)).run
        files store = (some (.error (Failure.under (.index (0 + before.length)) ⟨trail, inner⟩)),
          left) := Scope.run_resolveItems_error apart itemFailed
    rw [Nat.zero_add] at itemsFailed
    exact Dialogue.run_mapError_of_error (Dialogue.run_bind_of_error itemsFailed _) _

/-- Behind an assignment, the second item of a sequence in a mapping names a missing variable. -/
theorem sequence_runs_in_turn_up_to_missing_variable :
    let loader := ofOptions [] none
    let assignment : Yaml.Node := .tagged "!store" (.sequence [.string "a", .integer 2])
    let failing : Yaml.Node := .mapping [(.string "k", .sequence [.string "$a", .string "$b"])]
    let alone (item : Yaml.Node) := loader.resolveDocument .atRoot ⟨item, ⟨"."⟩, none⟩
    let whole := loader.resolveDocument .atRoot ⟨.sequence [assignment, failing, .null], ⟨"."⟩, none⟩
    let middle : Store := ⟨[("a", .integer 2)]⟩
    let cause : Cause := .undefinedVariable "b"
    YieldInTurn Dialogue.noFiles ([assignment].map alone) .empty [.integer 2] middle ∧
      (alone failing).run Dialogue.noFiles middle =
        (some (.error ⟨[⟨none, "k[1]"⟩], cause⟩), middle) ∧
      ∃ more, whole.run Dialogue.noFiles .empty =
        (some (.error ⟨[⟨none, "[1]" ++ more⟩], cause⟩), middle) := by
  intro loader assignment failing alone whole middle cause
  have assigned : (loader.resolveDocument .atRoot ⟨assignment, ⟨"."⟩, none⟩).run Dialogue.noFiles
      .empty = (some (.ok (.integer 2)), middle) := by
    cbv
  have earlier : YieldInTurn Dialogue.noFiles ([assignment].map alone) .empty [.integer 2] middle :=
    .cons assigned (.nil middle)
  have failed : (loader.resolveDocument .atRoot ⟨failing, ⟨"."⟩, none⟩).run Dialogue.noFiles
      middle = (some (.error ⟨[⟨none, "k[1]"⟩], cause⟩), middle) := by
    cbv
  obtain ⟨-, fails⟩ := sequence_runs_in_turn loader .atRoot Dialogue.noFiles .empty ⟨"."⟩ none
    [assignment, failing, .null]
  obtain ⟨trail, deeper, more, located, ran, begins⟩ :=
    fails [assignment] failing [.null] _ middle _ middle rfl earlier failed
  obtain ⟨-, rfl⟩ := List.cons.inj (congrArg ConfigError.locations located)
  have second : "[" ++ toString [assignment].length ++ "]" = "[1]" := by
    rw [List.length_singleton]
    decide
  rw [begins, second] at ran
  exact ⟨earlier, failed, more, ran⟩

end Loader

end TaggedConfig
