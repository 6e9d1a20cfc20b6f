import TaggedConfig.Proofs.PlainTrees
import TaggedConfig.Proofs.Entries
import TaggedConfig.Proofs.RoundTrip.Trees
import TaggedConfig.Proofs.RoundTrip.Tokens

/-!
# The node of a written value

A written value is read as the node that it is written as, if no number in it is missing, its keys are
distinct and it is not nested too deep.
-/

namespace TaggedConfig

open Yaml Yaml.Writing

namespace Value

/--
A value that stands for itself once it is written: its numbers are numbers, the keys of each of its
mappings are distinct, and none of its strings and keys implies a tag.
-/
inductive IsPlain : Value → Prop
  | null : IsPlain .null
  | bool (value : Bool) : IsPlain (.bool value)
  | integer (value : Int64) : IsPlain (.integer value)
  | float {value : Binary64} (number : value.isNaN = false) : IsPlain (.float value)
  | string {text : String} (ordinary : Implicit.ofText? text = none) : IsPlain (.string text)
  | sequence {items : List Value} (each : ∀ item ∈ items, IsPlain item) : IsPlain (.sequence items)
  | mapping {entries : Entries Value} (distinct : entries.keys.Nodup)
      (keys : ∀ entry ∈ entries, Implicit.ofText? entry.1 = none)
      (values : ∀ entry ∈ entries, IsPlain entry.2) : IsPlain (.mapping entries)

mutual

/-- How deep the collections of a value are nested. -/
def nesting : Value → Nat
  | .sequence items => nestingOfItems items + 1
  | .mapping entries => nestingOfEntries entries + 1
  | _ => 0

/-- How deep the collections among some items are nested. -/
def nestingOfItems : List Value → Nat
  | [] => 0
  | item :: rest => max item.nesting (nestingOfItems rest)

def nestingOfEntries : List (String × Value) → Nat
  | [] => 0
  | (_, value) :: rest => max value.nesting (nestingOfEntries rest)

end

theorem isNaN_of_isPlain {value : Value} (plain : value.IsPlain) : value.isNaN = false := by
  cases plain with
  | float number => exact number
  | _ => rfl

end Value

namespace Yaml.Tree

variable {document : Surroundings}

theorem read_scalar {text : String} {style : ScalarStyle} {node : Node}
    (read : Scalar.untagged text style = .ok node) (depth : Nat) (path : List PathStep)
    (mark : Mark) :
    Tree.read document depth path (.scalar none .absent text style mark) = pure node := by
  unfold Tree.read
  simp only [follow, pathOf, pure_bind, readScalar]
  rw [read]

/-- A key that differs from those before is no duplicate. -/
theorem find?_eq_none {done : List (Node × Node)} {key : String}
    (fresh : ∀ entry ∈ done, ∃ text, entry.1 = .string text ∧ text ≠ key) :
    done.find? (fun entry => entry.1.same (.string key)) = none := by
  refine List.find?_eq_none.mpr fun entry found => ?_
  obtain ⟨text, same, different⟩ := fresh entry found
  rw [same, Node.same]
  simpa using different

mutual

theorem read_spells {value : Value} {tree : Tree} (spells : Spells tree value)
    (plain : value.IsPlain) {depth : Nat} (fits : value.nesting ≤ depth) (path : List PathStep) :
    read document depth path tree = pure value.toNode := by
  match value with
  | .sequence items =>
      obtain ⟨deeper, rfl⟩ : ∃ deeper, depth = deeper + 1 := Nat.exists_eq_add_one.mpr
        (Nat.zero_lt_of_lt fits)
      cases spells with
      | scalar mark written => cases written
      | sequence mark each =>
          cases plain with
          | sequence plain =>
              unfold read
              simp only [follow, pathOf, pure_bind]
              rw [readItems_spells each plain (Nat.le_of_succ_le_succ fits) path 0]
              rfl
  | .mapping entries =>
      obtain ⟨deeper, rfl⟩ : ∃ deeper, depth = deeper + 1 := Nat.exists_eq_add_one.mpr
        (Nat.zero_lt_of_lt fits)
      cases spells with
      | scalar mark written => cases written
      | mapping mark each =>
          cases plain with
          | mapping distinct keys values =>
              unfold read
              simp only [follow, pathOf, pure_bind]
              rw [readEntries_spells each distinct values (Nat.le_of_succ_le_succ fits) path _
                (List.forall_mem_nil _)]
              rfl
  | .null | .bool _ | .integer _ | .float _ | .string _ =>
      cases spells with
      | scalar mark written =>
          exact read_scalar (Value.untagged_scalar written (Value.isNaN_of_isPlain plain)) depth path
            mark

theorem readItems_spells {items : List Value} {trees : List Tree} (spells : SpellItems trees items)
    (plain : ∀ item ∈ items, item.IsPlain) {depth : Nat}
    (fits : Value.nestingOfItems items ≤ depth) (path : List PathStep) (position : Nat) :
    readItems document (fun position item => read document depth (.index position :: path) item)
      true position trees = pure (Value.toNodes items) := by
  match items with
  | [] =>
      cases spells
      rfl
  | item :: rest =>
      cases spells with
      | cons first others =>
          obtain ⟨plainHere, plainLater⟩ := List.forall_mem_cons.mp plain
          obtain ⟨fitsHere, fitsLater⟩ := Nat.max_le.mp fits
          unfold readItems
          rw [read_spells first plainHere fitsHere, pure_bind,
            readItems_spells others plainLater fitsLater path (position + 1)]
          rfl

theorem readEntries_spells {entries : List (String × Value)} {children : List Tree}
    (spells : SpellEntries children entries) (distinct : (entries.map Prod.fst).Nodup)
    (plain : ∀ entry ∈ entries, entry.2.IsPlain) {depth : Nat}
    (fits : Value.nestingOfEntries entries ≤ depth) (path : List PathStep)
    (duplicate : Node → ReadError) {done : List (Node × Node)}
    (fresh : ∀ entry ∈ done, ∃ text, entry.1 = .string text ∧ text ∉ entries.map Prod.fst) :
    readEntries document (fun key => read document depth path key)
      (fun step value => read document depth (step :: path) value) duplicate true done children =
        pure (done.reverse ++ Value.toNodeEntries entries) := by
  match entries with
  | [] =>
      cases spells
      unfold readEntries
      rw [Value.toNodeEntries, List.append_nil]
      rfl
  | (key, value) :: rest =>
      cases spells with
      | cons mark first others =>
          obtain ⟨plainHere, plainLater⟩ := List.forall_mem_cons.mp plain
          obtain ⟨fitsHere, fitsLater⟩ := Nat.max_le.mp fits
          obtain ⟨absent, distinct⟩ := List.nodup_cons.mp distinct
          have new : done.find? (fun entry => entry.1.same (.string key)) = none := by
            refine find?_eq_none fun entry found => ?_
            obtain ⟨text, same, further⟩ := fresh entry found
            exact ⟨text, same, fun equal => further (equal ▸ List.mem_cons_self ..)⟩
          have later : ∀ entry ∈ (.string key, value.toNode) :: done,
              ∃ text, entry.1 = .string text ∧ text ∉ rest.map Prod.fst := by
            refine List.forall_mem_cons.mpr ⟨⟨key, rfl, absent⟩, fun entry found => ?_⟩
            obtain ⟨text, same, further⟩ := fresh entry found
            exact ⟨text, same, fun present => further (List.mem_cons_of_mem _ present)⟩
          unfold readEntries
          rw [read_scalar (untagged_styleOf key), pure_bind, new]
          dsimp only
          rw [read_spells first plainHere fitsHere, pure_bind,
            readEntries_spells others distinct plainLater fitsLater path duplicate later,
            List.reverse_cons, List.append_assoc]
          rfl

end

end Yaml.Tree

theorem Value.parse_toYaml {value : Value} (plain : value.IsPlain)
    (shallow : value.nesting ≤ Yaml.Tree.depthLimit) :
    Node.parse value.toYaml.toList = .ok value.toNode := by
  obtain ⟨tokens, found, kinds⟩ := value.tokens_toYaml
  obtain ⟨placed, events, placedEvents⟩ := events_of_tokens found kinds
  obtain ⟨tree, size, mark, spells, built⟩ := Tree.build_document value placedEvents
  unfold Node.parse
  rw [events]
  dsimp only
  rw [built]
  dsimp only
  rw [Tree.read_spells spells plain shallow []]
  rfl

end TaggedConfig
