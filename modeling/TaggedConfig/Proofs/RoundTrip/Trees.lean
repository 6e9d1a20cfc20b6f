import TaggedConfig.Proofs.RoundTrip.Events
import TaggedConfig.Yaml.Tree

/-!
# The tree of a written value

The tree that is built from the events of a value has the form of the value; its places do not matter.
-/

namespace TaggedConfig

open Yaml Yaml.Writing

namespace Yaml.Tree

mutual

/-- A tree has the form of a value, without any anchor or tag. -/
inductive Spells : Tree → Value → Prop
  | scalar {value : Value} {text : String} {style : ScalarStyle} (mark : Mark)
      (written : value.scalar? = some (text, style)) :
      Spells (.scalar none .absent text style mark) value
  | sequence {trees : List Tree} {items : List Value} (mark : Mark)
      (each : SpellItems trees items) :
      Spells (.sequence none .absent trees true mark) (.sequence items)
  | mapping {children : List Tree} {entries : List (String × Value)} (mark : Mark)
      (each : SpellEntries children entries) :
      Spells (.mapping none .absent children true mark) (.mapping entries)

inductive SpellItems : List Tree → List Value → Prop
  | nil : SpellItems [] []
  | cons {tree : Tree} {trees : List Tree} {item : Value} {items : List Value}
      (first : Spells tree item) (others : SpellItems trees items) :
      SpellItems (tree :: trees) (item :: items)

/-- Trees have the forms of keys and values in turn. -/
inductive SpellEntries : List Tree → List (String × Value) → Prop
  | nil : SpellEntries [] []
  | cons {tree : Tree} {children : List Tree} {key : String} {value : Value}
      {entries : List (String × Value)} (mark : Mark) (first : Spells tree value)
      (others : SpellEntries children entries) :
      SpellEntries (.scalar none .absent key (styleOf key) mark :: tree :: children)
        ((key, value) :: entries)

end

def Open.with (collection : Open) (trees : List Tree) : Open :=
  { collection with children := trees.reverse ++ collection.children }

theorem Open.with_cons (collection : Open) (tree : Tree) (trees : List Tree) :
    (collection.with [tree]).with trees = collection.with (tree :: trees) := by
  unfold Open.with
  simp

variable {fault : Option SyntaxError} {root : Option Tree} {anchors : List (List Char × Nat)}

mutual

theorem build_value (value : Value) {placed : List PlacedEvent}
    (events : placed.map PlacedEvent.event = value.events) (stack : List Open) (size : Nat)
    (rest : List PlacedEvent) :
    ∃ tree total, Spells tree value ∧
      build fault (placed ++ rest) ⟨stack, root, anchors, size⟩ =
        build fault rest ((⟨stack, root, anchors, total⟩ : Building).add tree) := by
  cases scalar : value.scalar? with
  | some form =>
      obtain ⟨text, style⟩ := form
      rw [Value.events_of_scalar scalar] at events
      obtain ⟨⟨_, mark⟩, others, rfl, rfl, none⟩ := List.map_eq_cons_iff.mp events
      rw [List.map_eq_nil_iff] at none
      subst none
      have same : String.ofList text.toList = text := String.ofList_toList
      refine ⟨.scalar .none .absent text style mark, size + 1, .scalar mark scalar, ?_⟩
      conv_rhs => rw [← same]
      rfl
  | none =>
      match value with
      | .sequence items =>
          obtain ⟨⟨_, mark⟩, inner, ⟨_, ended⟩, rfl, rfl, itemEvents, rfl⟩ := exists_between events
          obtain ⟨trees, total, each, built⟩ := build_items items itemEvents
            ⟨false, .none, .absent, mark, []⟩ stack (size + 1) (⟨.sequenceEnd, ended⟩ :: rest)
          refine ⟨.sequence .none .absent trees true mark, total + 1, .sequence mark each, ?_⟩
          rw [List.append_assoc]
          refine Eq.trans built ?_
          have reversed : (trees.reverse ++ []).reverse = trees := by simp
          conv_rhs => rw [← reversed]
          rfl
      | .mapping entries =>
          obtain ⟨⟨_, mark⟩, inner, ⟨_, ended⟩, rfl, rfl, entryEvents, rfl⟩ := exists_between events
          obtain ⟨children, total, each, built⟩ := build_entries entries entryEvents
            ⟨true, .none, .absent, mark, []⟩ stack (size + 1) (⟨.mappingEnd, ended⟩ :: rest)
          refine ⟨.mapping .none .absent children true mark, total + 1, .mapping mark each, ?_⟩
          rw [List.append_assoc]
          refine Eq.trans built ?_
          have reversed : (children.reverse ++ []).reverse = children := by simp
          conv_rhs => rw [← reversed]
          rfl

/-- The events of items build trees of their forms in the innermost collection. -/
theorem build_items (items : List Value) {placed : List PlacedEvent}
    (events : placed.map PlacedEvent.event = Value.itemEvents items) (top : Open)
    (outer : List Open) (size : Nat) (rest : List PlacedEvent) :
    ∃ trees total, SpellItems trees items ∧
      build fault (placed ++ rest) ⟨top :: outer, root, anchors, size⟩ =
        build fault rest ⟨top.with trees :: outer, root, anchors, total⟩ := by
  match items with
  | [] =>
      have none : placed = [] := List.map_eq_nil_iff.mp events
      subst none
      exact ⟨[], size, .nil, rfl⟩
  | item :: more =>
      obtain ⟨own, following, rfl, ownEvents, moreEvents⟩ := List.map_eq_append_iff.mp events
      obtain ⟨tree, middle, spells, first⟩ := build_value item ownEvents (top :: outer) size
        (following ++ rest)
      obtain ⟨trees, total, each, others⟩ := build_items more moreEvents (top.with [tree]) outer
        middle rest
      refine ⟨tree :: trees, total, .cons spells each, ?_⟩
      rw [List.append_assoc, first, ← Open.with_cons]
      exact others

/-- The events of entries build keys and values of their forms in the innermost collection. -/
theorem build_entries (entries : List (String × Value)) {placed : List PlacedEvent}
    (events : placed.map PlacedEvent.event = Value.entryEvents entries) (top : Open)
    (outer : List Open) (size : Nat) (rest : List PlacedEvent) :
    ∃ children total, SpellEntries children entries ∧
      build fault (placed ++ rest) ⟨top :: outer, root, anchors, size⟩ =
        build fault rest ⟨top.with children :: outer, root, anchors, total⟩ := by
  match entries with
  | [] =>
      have none : placed = [] := List.map_eq_nil_iff.mp events
      subst none
      exact ⟨[], size, .nil, rfl⟩
  | (key, value) :: more =>
      obtain ⟨⟨_, mark⟩, others, rfl, rfl, behindKey⟩ := List.map_eq_cons_iff.mp events
      obtain ⟨own, following, rfl, ownEvents, moreEvents⟩ := List.map_eq_append_iff.mp behindKey
      let keyTree : Tree := .scalar .none .absent key (styleOf key) mark
      obtain ⟨tree, middle, spells, first⟩ := build_value value ownEvents
        (top.with [keyTree] :: outer) (size + 1) (following ++ rest)
      obtain ⟨children, total, each, others⟩ := build_entries more moreEvents
        ((top.with [keyTree]).with [tree]) outer middle rest
      refine ⟨keyTree :: tree :: children, total, .cons mark spells each, ?_⟩
      have written : build fault (⟨.scalar .none key.toList (styleOf key), mark⟩ ::
          (own ++ (following ++ rest))) ⟨top :: outer, root, anchors, size⟩ =
            build fault (own ++ (following ++ rest))
              ⟨top.with [keyTree] :: outer, root, anchors, size + 1⟩ := by
        have same : String.ofList key.toList = key := String.ofList_toList
        change build fault _ ⟨top.with [.scalar .none .absent (String.ofList key.toList)
          (styleOf key) mark] :: outer, root, anchors, size + 1⟩ = _
        rw [same]
      rw [List.cons_append, List.append_assoc, written, first,
        ← Open.with_cons top keyTree (tree :: children), ← Open.with_cons _ tree children]
      exact others

end

theorem build_document (value : Value) {placed : List PlacedEvent}
    (events : placed.map PlacedEvent.event =
      .documentStart :: (value.events ++ [.documentEnd, .streamEnd])) :
    ∃ tree size mark, Spells tree value ∧
      build .none placed .empty = ⟨some tree, size, 0, .none, [⟨.streamEnd, mark⟩]⟩ := by
  obtain ⟨⟨_, began⟩, others, rfl, rfl, behindStart⟩ := List.map_eq_cons_iff.mp events
  obtain ⟨own, following, rfl, ownEvents, behindValue⟩ := List.map_eq_append_iff.mp behindStart
  obtain ⟨⟨_, ended⟩, others, rfl, rfl, behindEnd⟩ := List.map_eq_cons_iff.mp behindValue
  obtain ⟨⟨_, mark⟩, others, rfl, rfl, none⟩ := List.map_eq_cons_iff.mp behindEnd
  rw [List.map_eq_nil_iff] at none
  subst none
  obtain ⟨tree, size, spells, built⟩ := build_value value ownEvents [] 0
    [⟨.documentEnd, ended⟩, ⟨.streamEnd, mark⟩]
  exact ⟨tree, size, mark, spells, built⟩

end Yaml.Tree

end TaggedConfig
