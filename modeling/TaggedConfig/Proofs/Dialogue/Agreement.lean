import TaggedConfig.Proofs.Dialogue.History

/-!
# Runs from two stores

A run depends on its store only through the variables that it reads before it assigns them.
-/

namespace TaggedConfig.Dialogue

variable {ε α : Type}

/-- Stores that agree on what a run reads first lead to the same result by the same accesses. -/
theorem run_eq_of_agree {files : Files} {dialogue : Dialogue ε α} {first second : Store}
    (agree : ∀ name ∈ Access.exposed (dialogue.history files first),
      second.get? name = first.get? name) :
    (dialogue.run files second).1 = (dialogue.run files first).1 ∧
      dialogue.history files second = dialogue.history files first := by
  induction dialogue generalizing first second with
  | done result => exact ⟨rfl, rfl⟩
  | unfinished => exact ⟨rfl, rfl⟩
  | read name next ih =>
      have here : second.get? name = first.get? name := agree name List.mem_cons_self
      obtain ⟨result, history⟩ :=
        ih (first.get? name) fun other found => agree other (List.mem_cons_of_mem name found)
      simp only [run, Dialogue.history, here]
      exact ⟨result, congrArg (Access.read name (first.get? name) :: ·) history⟩
  | assign name value next ih =>
      have later : ∀ other ∈ Access.exposed (next.history files (first.set name value)),
          (second.set name value).get? other = (first.set name value).get? other := by
        intro other found
        rw [Store.get?_set, Store.get?_set]
        split
        · rfl
        · rename_i different
          exact agree other (List.mem_filter.mpr ⟨found, by simpa using Ne.symm different⟩)
      obtain ⟨result, history⟩ := ih later
      exact ⟨result, congrArg (Access.assign name value :: ·) history⟩
  | openFile depth path next ih => exact ih (files path) agree

/-- A variable that is read first is found in the store at the start. -/
theorem answer_of_exposed {files : Files} {dialogue : Dialogue ε α} {store : Store} {name : String}
    (found : name ∈ Access.exposed (dialogue.history files store)) :
    .read name (store.get? name) ∈ dialogue.history files store := by
  obtain ⟨before, answer, after, happened, unassigned⟩ :=
    (Access.mem_exposed_iff name _).mp found
  have answered := answer_of_history happened
  rw [unassigned, Option.none_or] at answered
  rw [happened, answered]
  exact List.mem_append_right before List.mem_cons_self

end TaggedConfig.Dialogue
