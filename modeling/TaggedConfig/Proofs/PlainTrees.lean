import Mathlib
import TaggedConfig.Proofs.DocumentOrder.Walk

/-!
# Trees without anything to resolve

A tree is plain if it has no tags and none of its texts, keys included, implies one.  Resolving a
plain tree asks nothing and comes to the value that the tree is taken as, or to the same cause.
-/

namespace TaggedConfig

/-- No node has a tag, and no text implies one. -/
inductive Yaml.Node.IsPlain : Yaml.Node → Prop
  | null : IsPlain .null
  | bool (value : Bool) : IsPlain (.bool value)
  | integer (value : Int) : IsPlain (.integer value)
  | float (value : Binary64) : IsPlain (.float value)
  | string {text : String} (ordinary : Implicit.ofText? text = none) : IsPlain (.string text)
  | sequence {items : List Yaml.Node} (each : ∀ item ∈ items, IsPlain item) :
      IsPlain (.sequence items)
  | mapping {entries : List (Yaml.Node × Yaml.Node)} (keys : ∀ entry ∈ entries, IsPlain entry.1)
      (values : ∀ entry ∈ entries, IsPlain entry.2) : IsPlain (.mapping entries)

/-- A part of a resolution asks nothing and ends with a value or, at some trail, with a cause. -/
def Dialogue.SettlesAs {α : Type} (resolving : Resolving α) (result : Except Cause α) : Prop :=
  match result with
  | .ok value => resolving = .ofValue value
  | .error cause => ∃ trail, resolving = Dialogue.fail ⟨trail, .ofCause cause⟩

namespace Dialogue.SettlesAs

variable {α β : Type} {resolving : Resolving α} {result : Except Cause α}

theorem ofExcept (result : Except Cause α) : (Resolving.ofExcept result).SettlesAs result := by
  cases result with
  | ok value => exact rfl
  | error cause => exact ⟨[], rfl⟩

/-- What follows a settled part goes on with its value, or not at all. -/
theorem bind {next : α → Resolving β} {nextResult : α → Except Cause β}
    (settles : resolving.SettlesAs result)
    (later : ∀ value, result = .ok value → (next value).SettlesAs (nextResult value)) :
    (resolving.bind next).SettlesAs (result >>= nextResult) := by
  cases result with
  | ok value =>
      have here : resolving = .ofValue value := settles
      rw [here, Dialogue.ofValue_bind]
      exact later value rfl
  | error cause =>
      obtain ⟨trail, rfl⟩ := settles
      exact ⟨trail, rfl⟩

/-- The trail of a cause grows, and nothing else changes. -/
theorem under (settles : resolving.SettlesAs result) (segment : Segment) :
    (resolving.under segment).SettlesAs result := by
  cases result with
  | ok value =>
      have here : resolving = .ofValue value := settles
      rw [here]
      exact rfl
  | error cause =>
      obtain ⟨trail, rfl⟩ := settles
      exact ⟨segment :: trail, rfl⟩

end Dialogue.SettlesAs

section

variable (scope : Scope) (onValueText : Scope.OnValueText)

mutual

theorem resolveNode_settles {node : Yaml.Node} (plain : node.IsPlain) :
    (scope.resolveNode onValueText node).SettlesAs (Value.ofNode node) := by
  match node with
  | .null => exact rfl
  | .bool value => exact rfl
  | .integer value => exact rfl
  | .float value => exact rfl
  | .string text =>
      cases plain with
      | string ordinary =>
          unfold Scope.resolveNode Scope.resolveText
          rw [ordinary]
          exact rfl
  | .sequence items =>
      cases plain with
      | sequence each => exact .bind (resolveItems_settles 0 each) fun values _ => rfl
  | .mapping entries =>
      cases plain with
      | mapping keys values => exact .bind (resolveEntries_settles keys values) fun list _ => rfl
  | .tagged tag content => cases plain

theorem resolveItems_settles {items : List Yaml.Node} (position : Nat)
    (plain : ∀ item ∈ items, item.IsPlain) :
    (scope.resolveItems onValueText position items).SettlesAs (Value.ofNodes items) := by
  match items with
  | [] => exact rfl
  | item :: rest =>
      obtain ⟨first, others⟩ := List.forall_mem_cons.mp plain
      refine .bind ((resolveNode_settles first).under _) fun value _ => ?_
      exact .bind (resolveItems_settles (position + 1) others) fun values _ => rfl

/-- Keys are rendered alike on both sides, and each of them comes before its value. -/
theorem resolveEntries_settles {entries : List (Yaml.Node × Yaml.Node)}
    (keys : ∀ entry ∈ entries, entry.1.IsPlain) (values : ∀ entry ∈ entries, entry.2.IsPlain) :
    (scope.resolveEntries onValueText entries).SettlesAs (Value.ofNodeEntries entries) := by
  match entries with
  | [] => exact rfl
  | (keyNode, valueNode) :: rest =>
      obtain ⟨keyHere, keysLater⟩ := List.forall_mem_cons.mp keys
      obtain ⟨valueHere, valuesLater⟩ := List.forall_mem_cons.mp values
      refine .bind (resolveNode_settles keyHere) fun keyValue _ => ?_
      refine .bind (.ofExcept keyValue.asKey) fun key _ => ?_
      refine .bind ((resolveNode_settles valueHere).under _) fun value _ => ?_
      exact .bind (resolveEntries_settles keysLater valuesLater) fun list _ => rfl

end

end

namespace Loader

/-- A loader always goes into the document that it is given. -/
theorem resolveDocument_eq (loader : Loader) (host : Surroundings) (document : Document) :
    loader.resolveDocument host document =
      ((loader.scopeFor host document.directory
        (loader.includeWith host (loader.resolveWithin host (loader.allowance host - 1) 1) 1
          document.directory)).resolve document.root).mapError
            (Failure.toError document.origin) := by
  obtain ⟨allowance, same⟩ := Nat.exists_eq_add_one.mpr (loader.allowance_pos host)
  unfold resolveDocument
  rw [same]
  rfl

/--
A plain document resolves to the value that its tree is taken as, or fails with the same cause.  It
leaves the store as it is.
-/
theorem resolveDocument_of_isPlain (loader : Loader) (host : Surroundings) (files : Dialogue.Files)
    (store : Store) (document : Document) (plain : document.root.IsPlain) :
    match Value.ofNode document.root with
    | .ok value =>
        (loader.resolveDocument host document).run files store = (some (.ok value), store)
    | .error cause =>
        ∃ locations, (loader.resolveDocument host document).run files store =
          (some (.error ⟨locations, cause⟩), store) := by
  rw [resolveDocument_eq]
  generalize loader.scopeFor host document.directory _ = scope
  have settles := resolveNode_settles scope scope.resolveValueText plain
  unfold Scope.resolve
  cases taken : Value.ofNode document.root with
  | ok value =>
      rw [taken] at settles
      have same : scope.resolveNode scope.resolveValueText document.root = .ofValue value := settles
      rw [same]
      rfl
  | error cause =>
      rw [taken] at settles
      obtain ⟨trail, same⟩ := settles
      rw [same]
      exact ⟨[⟨document.origin, trail.describe⟩], rfl⟩

/-- Two keys come out as one text, so that the second value takes the place of the first. -/
theorem resolveDocument_of_isPlain_with_keys_alike :
    let root : Yaml.Node :=
      .mapping [(.integer 1, .null), (.string "1", .integer 9223372036854775808)]
    root.IsPlain ∧
      (basic.resolveDocument .atRoot ⟨root, ⟨"."⟩, none⟩).run Dialogue.noFiles Store.empty =
        (some (.ok (.mapping [("1", .float (.ofInt 9223372036854775808))])), Store.empty) := by
  intro root
  have plain : root.IsPlain := by
    refine .mapping ?_ ?_
    · intro entry found
      rcases List.mem_pair.mp found with rfl | rfl
      · exact .integer 1
      · exact .string (by decide)
    · intro entry found
      rcases List.mem_pair.mp found with rfl | rfl
      · exact .null
      · exact .integer _
  have resolved := resolveDocument_of_isPlain basic .atRoot Dialogue.noFiles Store.empty
    ⟨root, ⟨"."⟩, none⟩ plain
  have taken : Value.ofNode root =
      .ok (.mapping [("1", .float (.ofInt 9223372036854775808))]) := by
    have large : int64? 9223372036854775808 = none := by decide
    have small : int64? 1 = some 1 := by decide
    simp [root, Value.ofNode, Value.ofNodeEntries, Value.ofInteger, large, small, Value.asKey]
    rfl
  dsimp only at resolved
  rw [taken] at resolved
  exact ⟨plain, resolved⟩

end Loader

end TaggedConfig
