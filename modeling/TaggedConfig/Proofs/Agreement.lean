import Mathlib
import TaggedConfig.Proofs.Dialogue.Agreement
import TaggedConfig.Proofs.DocumentOrder.Missing

/-!
# Loading from two stores

A load depends on its store only through the variables that it reads before it assigns them.  A load
that succeeds has found all of them, so that further variables do not matter to it.
-/

namespace TaggedConfig.Loader

variable (loader : Loader) (host : Surroundings) (files : Dialogue.Files) (source : Source)

variable {loader host files source} in
/-- A load that succeeds has found every variable that it read. -/
theorem found_of_load {store : Store} {value : Value}
    (loaded : ((loader.load host source).run files store).1 = some (.ok value)) (name : String) :
    .read name none ∉ (loader.load host source).history files store := by
  have follows : (loader.load host source).Ensures files (LoadWalk loader host files source) :=
    load_follows source
  have walk := follows store
  rw [loaded] at walk
  exact walk.conclusive.found_of_ok name

/--
Two stores that agree on the variables that a load reads before it assigns them lead to the same
result by the same reads and assignments.  Where the load succeeds, it is enough that the second store
has the variables of the first.
-/
theorem load_agrees (first second : Store) :
    ((∀ name ∈ Access.exposed ((loader.load host source).history files first),
        second.get? name = first.get? name) →
      ((loader.load host source).run files second).1 =
          ((loader.load host source).run files first).1 ∧
        (loader.load host source).history files second =
          (loader.load host source).history files first) ∧
      ∀ value, ((loader.load host source).run files first).1 = some (.ok value) →
        (∀ name present, first.get? name = some present → second.get? name = some present) →
          ((loader.load host source).run files second).1 = some (.ok value) ∧
            (loader.load host source).history files second =
              (loader.load host source).history files first := by
  refine ⟨Dialogue.run_eq_of_agree, fun value loaded extends? => ?_⟩
  rw [← loaded]
  refine Dialogue.run_eq_of_agree fun name exposed => ?_
  cases present : first.get? name with
  | some value => exact extends? name value present
  | none =>
      have missing := Dialogue.answer_of_exposed exposed
      rw [present] at missing
      exact absurd missing (found_of_load loaded name)

/-- A variable that is read is found alike in a store with another variable before it. -/
theorem load_agrees_beside_another_variable :
    Access.exposed ((basic.load .atRoot (.text "!load a")).history Dialogue.noFiles
        ⟨[("a", .integer 1)]⟩) = ["a"] ∧
      Store.get? ⟨[("b", .null), ("a", .integer 1)]⟩ "a" = Store.get? ⟨[("a", .integer 1)]⟩ "a" ∧
      ((basic.load .atRoot (.text "!load a")).run Dialogue.noFiles
        ⟨[("b", .null), ("a", .integer 1)]⟩).1 = some (.ok (.integer 1)) := by
  have happened : (basic.load .atRoot (.text "!load a")).history Dialogue.noFiles
      ⟨[("a", .integer 1)]⟩ = [.read "a" (some (.integer 1))] := by
    cbv
  have loaded : ((basic.load .atRoot (.text "!load a")).run Dialogue.noFiles
      ⟨[("a", .integer 1)]⟩).1 = some (.ok (.integer 1)) := by
    cbv
  have agrees := load_agrees basic .atRoot Dialogue.noFiles (.text "!load a")
    ⟨[("a", .integer 1)]⟩ ⟨[("b", .null), ("a", .integer 1)]⟩
  have exposed : Access.exposed ((basic.load .atRoot (.text "!load a")).history Dialogue.noFiles
      ⟨[("a", .integer 1)]⟩) = ["a"] := by
    rw [happened]
    rfl
  refine ⟨exposed, rfl, ?_⟩
  rw [← loaded]
  refine (agrees.1 fun name found => ?_).1
  rw [exposed, List.mem_singleton] at found
  rw [found]
  rfl

end TaggedConfig.Loader
