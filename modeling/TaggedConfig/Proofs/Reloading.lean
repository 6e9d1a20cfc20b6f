import Mathlib
import TaggedConfig.Proofs.Agreement
import TaggedConfig.Proofs.Entries

/-!
# Loading again

A load that succeeds from the store without variables reads no variable before it has assigned it.  So
the variables that it leaves do not matter when it is repeated, and repeating it leaves them as they
are.
-/

namespace TaggedConfig

namespace Store

/-- The names of assignments are among the names that they leave. -/
theorem mem_names_assignAll (store : Store) {list : List (String × Value)} {name : String}
    (assigned : name ∈ list.map Prod.fst) : name ∈ (store.assignAll list).names := by
  rw [names_assignAll, List.mem_append, List.mem_eraseDups, List.mem_filter]
  by_cases present : name ∈ store.names
  · exact .inl present
  · exact .inr ⟨assigned, by simpa using present⟩

/-- Assignments that are repeated at once change nothing. -/
theorem assignAll_again {store : Store} (distinct : store.names.Nodup) (history : List Access) :
    (store.assignAll (Access.assignments history)).assignAll (Access.assignments history) =
      store.assignAll (Access.assignments history) := by
  generalize made : store.assignAll (Access.assignments history) = left
  have keptDistinct : left.names.Nodup := by
    rw [← made]
    unfold names
    rw [assigned_assignAll]
    exact Entries.nodup_putAll distinct _
  have names : left.names = (left.assignAll (Access.assignments history)).names := by
    have none : ((Access.assignments history).map Prod.fst).filter (· ∉ left.names) = [] := by
      refine List.filter_eq_nil_iff.mpr fun name assigned => ?_
      rw [← made]
      simpa using store.mem_names_assignAll assigned
    rw [names_assignAll, none, List.eraseDups_nil, List.append_nil]
  have values (name : String) :
      left.get? name = (left.assignAll (Access.assignments history)).get? name := by
    rw [get?_assignAll, ← made, get?_assignAll, ← Option.or_assoc, Option.or_self]
  have same : left.assigned = (left.assignAll (Access.assignments history)).assigned :=
    Entries.eq_of_get?_eq keptDistinct names values
  exact (congrArg Store.mk same).symm

end Store

/-- Loading again from the store that a successful load leaves yields the same value and store. -/
theorem Loader.load_again (loader : Loader) (host : Surroundings) (files : Dialogue.Files)
    (source : Source) (value : Value) (left : Store)
    (loaded : (loader.load host source).run files Store.empty = (some (.ok value), left)) :
    (loader.load host source).run files left = (some (.ok value), left) := by
  have succeeded : ((loader.load host source).run files Store.empty).1 = some (.ok value) := by
    rw [loaded]
  obtain ⟨result, history⟩ :=
    (loader.load_agrees host files source Store.empty left).2 value succeeded nofun
  have made : left = Store.empty.assignAll
      (Access.assignments ((loader.load host source).history files Store.empty)) := by
    rw [← Dialogue.run_store, loaded]
  have distinct : Store.empty.names.Nodup := List.nodup_nil
  refine Prod.ext result ?_
  rw [Dialogue.run_store, history, made]
  exact Store.assignAll_again distinct _

/-- A document that assigns a variable is loaded twice. -/
theorem Loader.load_again_of_assignment :
    (basic.load .atRoot (.text "!store [a, 1]")).run Dialogue.noFiles Store.empty =
        (some (.ok (.integer 1)), ⟨[("a", .integer 1)]⟩) ∧
      (basic.load .atRoot (.text "!store [a, 1]")).run Dialogue.noFiles ⟨[("a", .integer 1)]⟩ =
        (some (.ok (.integer 1)), ⟨[("a", .integer 1)]⟩) := by
  have loaded : (basic.load .atRoot (.text "!store [a, 1]")).run Dialogue.noFiles Store.empty =
      (some (.ok (.integer 1)), ⟨[("a", .integer 1)]⟩) := by
    cbv
  exact ⟨loaded, load_again basic .atRoot Dialogue.noFiles (.text "!store [a, 1]") (.integer 1)
    ⟨[("a", .integer 1)]⟩ loaded⟩

end TaggedConfig
