import Mathlib
import TaggedConfig.Proofs.Entries
import TaggedConfig.Proofs.Failing.Obstacles

/-!
# Keys that come out alike

The nodes that are the keys of a mapping are distinct, but their texts need not be.  A mapping keeps
all its entries exactly if the texts of its keys are distinct.  Otherwise a text keeps the place of
its first entry and the value of its last, and the others are lost.
-/

namespace TaggedConfig

namespace Entries

variable {α : Type}

/-- A dictionary has as many entries as its list exactly if no key is repeated. -/
theorem length_ofList_eq_iff (list : List (String × α)) :
    (ofList list).length = list.length ↔ (list.map Prod.fst).Nodup := by
  constructor
  · intro same
    have distinct : (list.map Prod.fst).eraseDups.Nodup := by
      rw [← keys_ofList]
      exact nodup_putAll (keys_nil ▸ List.nodup_nil) list
    have some : (list.map Prod.fst).eraseDups ⊆ list.map Prod.fst :=
      fun _ => List.mem_eraseDups.mp
    have counted : (list.map Prod.fst).eraseDups.length = list.length := by
      rw [← keys_ofList, keys, List.length_map, same]
    have all : (list.map Prod.fst).eraseDups.Perm (list.map Prod.fst) := by
      refine (distinct.subperm some).perm_of_length_le ?_
      rw [counted, List.length_map]
    exact all.nodup_iff.mp distinct
  · intro distinct
    rw [ofList_of_nodup distinct]

end Entries

namespace Scope

variable {scope : Scope} {onValueText : OnValueText} {files : Dialogue.Files}

/-- The entries of a mapping have the texts of their keys and their values one after the other. -/
inductive EntriesInTurn (scope : Scope) (onValueText : OnValueText) (files : Dialogue.Files) :
    List (Yaml.Node × Yaml.Node) → Store → List (String × Value) → Store → Prop
  | nil (store : Store) : EntriesInTurn scope onValueText files [] store [] store
  | cons {keyNode valueNode : Yaml.Node} {rest : List (Yaml.Node × Yaml.Node)}
      {store afterKey afterValue left : Store} {keyValue value : Value} {key : String}
      {list : List (String × Value)}
      (keyRun : (scope.resolveNode onValueText keyNode).Yields files store keyValue afterKey)
      (fit : keyValue.asKey = .ok key)
      (valueRun : (scope.resolveNode onValueText valueNode).Yields files afterKey value afterValue)
      (others : EntriesInTurn scope onValueText files rest afterValue list left) :
      EntriesInTurn scope onValueText files ((keyNode, valueNode) :: rest) store
        ((key, value) :: list) left

theorem resolveEntries_yields_iff (entries : List (Yaml.Node × Yaml.Node)) (store left : Store)
    (list : List (String × Value)) :
    (scope.resolveEntries onValueText entries).Yields files store list left ↔
      EntriesInTurn scope onValueText files entries store list left := by
  induction entries generalizing store list with
  | nil =>
      constructor
      · intro yields
        cases yields
        exact .nil _
      · intro yields
        cases yields
        exact rfl
  | cons entry rest ih =>
      obtain ⟨keyNode, valueNode⟩ := entry
      constructor
      · intro yields
        obtain ⟨keyValue, afterKey, keyRun, behindKey⟩ := Dialogue.exists_of_yields_bind yields
        obtain ⟨key, between, keyText, behindText⟩ := Dialogue.exists_of_yields_bind behindKey
        obtain ⟨fit, rfl⟩ := Dialogue.yields_ofExcept keyText
        obtain ⟨value, afterValue, valueRun, behindValue⟩ :=
          Dialogue.exists_of_yields_bind behindText
        obtain ⟨others, last, restRun, done⟩ := Dialogue.exists_of_yields_bind behindValue
        cases done
        exact .cons keyRun fit valueRun.of_mapError ((ih _ _).mp restRun)
      · intro yields
        cases yields with
        | cons keyRun fit valueRun others =>
            refine keyRun.bind ?_
            rw [fit]
            exact .bind rfl ((valueRun.mapError _).bind (((ih _ _).mpr others).bind rfl))

theorem EntriesInTurn.length_eq {entries : List (Yaml.Node × Yaml.Node)} {store left : Store}
    {list : List (String × Value)}
    (yields : EntriesInTurn scope onValueText files entries store list left) :
    list.length = entries.length := by
  induction yields with
  | nil => rfl
  | cons keyRun fit valueRun others ih => exact congrArg (· + 1) ih

/--
A mapping has a value exactly if its entries have the texts of their keys and their values one after
the other.  It keeps all the entries exactly if those texts are distinct, and then it has them as they
are.  In any case it has the texts in the order of their first entries, each with its last value.
-/
theorem mapping_keeps_entries_iff (scope : Scope) (onValueText : OnValueText)
    (files : Dialogue.Files) (store : Store) (entries : List (Yaml.Node × Yaml.Node)) :
    (∀ value left, (scope.resolveNode onValueText (.mapping entries)).Yields files store value left ↔
        ∃ list, value = .mapping (Entries.ofList list) ∧
          EntriesInTurn scope onValueText files entries store list left) ∧
      ∀ list left, EntriesInTurn scope onValueText files entries store list left →
        list.length = entries.length ∧
          ((Entries.ofList list).length = entries.length ↔ (list.map Prod.fst).Nodup) ∧
          ((list.map Prod.fst).Nodup → Entries.ofList list = list) ∧
          (Entries.ofList list).keys = (list.map Prod.fst).eraseDups ∧
          ∀ key, (Entries.ofList list).get? key = Entries.get? list.reverse key := by
  constructor
  · intro value left
    constructor
    · intro yields
      obtain ⟨list, middle, entriesRun, done⟩ := Dialogue.exists_of_yields_bind yields
      cases done
      exact ⟨list, rfl, (resolveEntries_yields_iff entries store _ list).mp entriesRun⟩
    · rintro ⟨list, rfl, yields⟩
      exact ((resolveEntries_yields_iff entries store left list).mpr yields).bind rfl
  · intro list left yields
    refine ⟨yields.length_eq, ?_, Entries.ofList_of_nodup, Entries.keys_ofList list,
      Entries.get?_ofList list⟩
    rw [← yields.length_eq]
    exact Entries.length_ofList_eq_iff list

end Scope

/-- The second of two entries takes the place of the first, whose key has the same text. -/
theorem Loader.load_with_keys_alike :
    Yaml.Node.parse "1: a\n'1': b".toList =
        .ok (.mapping [(.integer 1, .string "a"), (.string "1", .string "b")]) ∧
      (basic.load .atRoot (.text "1: a\n'1': b")).run Dialogue.noFiles Store.empty =
        (some (.ok (.mapping [("1", .string "b")])), Store.empty) := by
  constructor
  · cbv
  · cbv

end TaggedConfig
