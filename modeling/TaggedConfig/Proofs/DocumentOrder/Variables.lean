import Mathlib
import TaggedConfig.Proofs.DocumentOrder.Missing

/-!
# Variables in document order

Loading makes the accesses of a walk through its document.  Every read finds what was assigned last
before it in document order, or else what the store had at the start.
-/

namespace TaggedConfig.Loader

/--
The accesses of a load come in document order.  A read finds the last earlier assignment or the value
at the start; the load fails for a missing variable exactly where there is neither.  The store at the
end is the one at the start with the assignments made, whichever way the load ends.
-/
theorem load_in_document_order (loader : Loader) (host : Surroundings) (files : Dialogue.Files)
    (store : Store) (source : Source) :
    let dialogue := loader.load host source
    let history := dialogue.history files store
    let result := ending (dialogue.run files store).1
    let left := (dialogue.run files store).2
    LoadWalk loader host files source history result ∧
      (∀ before name answer after, history = before ++ .read name answer :: after →
        answer = (Access.lastAssigned? name before).or (store.get? name) ∧
          (answer = none ↔ after = [] ∧ result = .error (.failed (.undefinedVariable name)))) ∧
      left.assigned = store.assigned.putAll (Access.assignments history) ∧
      left.names = store.names ++
        (((Access.assignments history).map Prod.fst).filter (· ∉ store.names)).eraseDups ∧
      ∀ name, left.get? name = (Access.lastAssigned? name history).or (store.get? name) := by
  intro dialogue history result left
  have walk : LoadWalk loader host files source history result := load_follows source store
  have made : left = store.assignAll (Access.assignments history) := dialogue.run_store files store
  refine ⟨walk, ?_, ?_, ?_, ?_⟩
  · intro before name answer after happened
    exact ⟨Dialogue.answer_of_history happened, walk.conclusive.missing_iff happened⟩
  · rw [made, Store.assigned_assignAll]
  · rw [made, Store.names_assignAll]
  · intro name
    rw [made, Store.get?_assignAll]

/--
A document that is included behind an assignment finds its value; behind the first variable that is
missing nothing more is asked for.
-/
theorem load_in_document_order_of_include :
    let files : Dialogue.Files := fun _ => .ok "[$b, $c]"
    let source : Source := .text "[!store [b, 5], !include f]"
    let store : Store := ⟨[("a", .null)]⟩
    let before : List Access := [.assign "b" (.integer 5)]
    let history : List Access := before ++ [.read "b" (some (.integer 5)), .read "c" none]
    (basic.load .atRoot source).history files store = history ∧
      LoadWalk basic .atRoot files source history (.error (.failed (.undefinedVariable "c"))) ∧
      some (.integer 5) = (Access.lastAssigned? "b" before).or (store.get? "b") ∧
      ((basic.load .atRoot source).run files store).2.names = ["a", "b"] := by
  intro files source store before history
  have happened : (basic.load .atRoot source).history files store = history := by
    cbv
  have ended : ((basic.load .atRoot source).run files store).1 =
      some (.error ⟨[⟨none, "[1]"⟩, ⟨some ⟨"/f"⟩, "[1]"⟩], .undefinedVariable "c"⟩) := by
    cbv
  obtain ⟨walk, answers, -, names, -⟩ :=
    load_in_document_order basic .atRoot files store source
  rw [happened, ended] at walk
  refine ⟨happened, walk, (answers before "b" _ _ happened).1, names.trans ?_⟩
  rw [happened]
  rfl

end TaggedConfig.Loader
