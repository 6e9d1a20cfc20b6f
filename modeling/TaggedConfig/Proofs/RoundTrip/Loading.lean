import TaggedConfig.Proofs.RoundTrip.Nodes

/-!
# Loading what was written

A value that stands for itself is written as a text that is loaded as the value again.  The store and
the files do not matter, and the store is left as it is.
-/

namespace TaggedConfig

open Yaml

namespace Value

theorem ofInteger_toInt (value : Int64) : ofInteger value.toInt = .integer value := by
  unfold ofInteger
  rw [int64?_toInt]

mutual

theorem ofNode_toNode {value : Value} (plain : value.IsPlain) : ofNode value.toNode = .ok value := by
  match value with
  | .null | .bool _ | .float _ | .string _ => rfl
  | .integer value => exact congrArg Except.ok (ofInteger_toInt value)
  | .sequence items =>
      cases plain with
      | sequence each =>
          unfold toNode ofNode
          rw [ofNodes_toNodes each]
          rfl
  | .mapping entries =>
      cases plain with
      | mapping distinct keys values =>
          unfold toNode ofNode
          rw [ofNodeEntries_toNodeEntries values]
          exact congrArg (Except.ok ∘ Value.mapping) (Entries.ofList_of_nodup distinct)

theorem ofNodes_toNodes {items : List Value} (plain : ∀ item ∈ items, item.IsPlain) :
    ofNodes (toNodes items) = .ok items := by
  match items with
  | [] => rfl
  | item :: rest =>
      obtain ⟨first, others⟩ := List.forall_mem_cons.mp plain
      unfold toNodes ofNodes
      rw [ofNode_toNode first, ofNodes_toNodes others]
      rfl

theorem ofNodeEntries_toNodeEntries {entries : List (String × Value)}
    (plain : ∀ entry ∈ entries, entry.2.IsPlain) :
    ofNodeEntries (toNodeEntries entries) = .ok entries := by
  match entries with
  | [] => rfl
  | (key, value) :: rest =>
      obtain ⟨first, others⟩ := List.forall_mem_cons.mp plain
      unfold toNodeEntries ofNodeEntries
      rw [ofNode_toNode first, ofNodeEntries_toNodeEntries others]
      rfl

end

mutual

theorem isPlain_toNode {value : Value} (plain : value.IsPlain) : value.toNode.IsPlain := by
  match value with
  | .null => exact .null
  | .bool value => exact .bool value
  | .integer value => exact .integer _
  | .float value => exact .float value
  | .string text =>
      cases plain with
      | string ordinary => exact .string ordinary
  | .sequence items =>
      cases plain with
      | sequence each => exact .sequence (isPlain_of_mem_toNodes each)
  | .mapping entries =>
      cases plain with
      | mapping distinct keys values =>
          have each := isPlain_of_mem_toNodeEntries keys values
          exact .mapping (fun entry found => (each entry found).1) fun entry found =>
            (each entry found).2

theorem isPlain_of_mem_toNodes {items : List Value} (plain : ∀ item ∈ items, item.IsPlain) :
    ∀ node ∈ toNodes items, node.IsPlain := by
  match items with
  | [] => exact List.forall_mem_nil _
  | item :: rest =>
      obtain ⟨first, others⟩ := List.forall_mem_cons.mp plain
      exact List.forall_mem_cons.mpr ⟨isPlain_toNode first, isPlain_of_mem_toNodes others⟩

theorem isPlain_of_mem_toNodeEntries {entries : List (String × Value)}
    (keys : ∀ entry ∈ entries, Implicit.ofText? entry.1 = none)
    (values : ∀ entry ∈ entries, entry.2.IsPlain) :
    ∀ entry ∈ toNodeEntries entries, entry.1.IsPlain ∧ entry.2.IsPlain := by
  match entries with
  | [] => exact List.forall_mem_nil _
  | (key, value) :: rest =>
      obtain ⟨keyHere, keysLater⟩ := List.forall_mem_cons.mp keys
      obtain ⟨valueHere, valuesLater⟩ := List.forall_mem_cons.mp values
      exact List.forall_mem_cons.mpr ⟨⟨.string keyHere, isPlain_toNode valueHere⟩,
        isPlain_of_mem_toNodeEntries keysLater valuesLater⟩

end

end Value

namespace Loader

/-- Writing a value and loading the text yields the value and leaves the store as it is. -/
theorem load_toYaml (loader : Loader) (host : Surroundings) (files : Dialogue.Files) (store : Store)
    (value : Value) (plain : value.IsPlain) (shallow : value.nesting ≤ Tree.depthLimit) :
    (loader.load host (.text value.toYaml)).run files store = (some (.ok value), store) := by
  have parsed : Document.parse value.toYaml none =
      .ok ⟨value.toNode, Document.directoryOf none, none⟩ := by
    unfold Document.parse
    rw [value.parse_toYaml plain shallow]
  have resolved := resolveDocument_of_isPlain loader host files store
    ⟨value.toNode, Document.directoryOf none, none⟩ (Value.isPlain_toNode plain)
  dsimp only at resolved
  rw [Value.ofNode_toNode plain] at resolved
  have found : (Source.text value.toYaml).document =
      .ofExcept (.ok ⟨value.toNode, Document.directoryOf none, none⟩) :=
    congrArg Dialogue.ofExcept parsed
  unfold load
  rw [found]
  exact resolved

/-- Texts that look like something else are written and loaded, as a key and as values. -/
theorem load_toYaml_of_misleading_texts :
    let value : Value := .mapping [("true", .sequence [.string "1", .null, .mapping []]),
      ("# no comment", .string "---\n!tag\n\n")]
    value.IsPlain ∧ value.nesting ≤ Tree.depthLimit ∧
      (basic.load .atRoot (.text value.toYaml)).run Dialogue.noFiles Store.empty =
        (some (.ok value), Store.empty) := by
  intro value
  have ordinary : ∀ text ∈ ["true", "1", "# no comment", "---\n!tag\n\n"],
      Implicit.ofText? text = none := by
    decide
  have empty : Value.IsPlain (.mapping []) :=
    .mapping List.nodup_nil (List.forall_mem_nil _) (List.forall_mem_nil _)
  have items : Value.IsPlain (.sequence [.string "1", .null, .mapping []]) := by
    refine .sequence fun item found => ?_
    simp only [List.mem_cons, List.not_mem_nil, or_false] at found
    rcases found with rfl | rfl | rfl
    · exact .string (ordinary "1" (by simp))
    · exact .null
    · exact empty
  have plain : value.IsPlain := by
    refine .mapping (by decide) ?_ ?_
    · intro entry found
      rcases List.mem_pair.mp found with rfl | rfl
      · exact ordinary "true" (by simp)
      · exact ordinary "# no comment" (by simp)
    · intro entry found
      rcases List.mem_pair.mp found with rfl | rfl
      · exact items
      · exact .string (ordinary "---\n!tag\n\n" (by simp))
  have shallow : value.nesting ≤ Tree.depthLimit := by decide
  exact ⟨plain, shallow, load_toYaml basic .atRoot Dialogue.noFiles Store.empty value plain shallow⟩

end Loader

end TaggedConfig
