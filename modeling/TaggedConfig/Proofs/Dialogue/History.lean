import TaggedConfig.Proofs.Dialogue.Laws
import TaggedConfig.Proofs.Entries

/-!
# What a run reads and assigns

The history of a run lists its accesses to variables in the order in which they happen.  It decides
the store that the run leaves, and with the store at the start it decides every answer.
-/

namespace TaggedConfig

/-- A variable is read, with what was found, or assigned. -/
inductive Access where
  | read (name : String) (answer : Option Value)
  | assign (name : String) (value : Value)
  deriving Repr

namespace Access

def assignments : List Access → List (String × Value)
  | [] => []
  | .read _ _ :: rest => assignments rest
  | .assign name value :: rest => (name, value) :: assignments rest

theorem assignments_append (before after : List Access) :
    assignments (before ++ after) = assignments before ++ assignments after := by
  induction before with
  | nil => rfl
  | cons access rest ih =>
      cases access with
      | read name answer => exact ih
      | assign name value => exact congrArg ((name, value) :: ·) ih

/-- The value that was assigned to a variable last. -/
def lastAssigned? (name : String) : List Access → Option Value
  | [] => none
  | .read _ _ :: rest => lastAssigned? name rest
  | .assign other value :: rest =>
      (lastAssigned? name rest).or (if other = name then some value else none)

/-- The variables that are read before they are assigned. -/
def exposed : List Access → List String
  | [] => []
  | .read name _ :: rest => name :: exposed rest
  | .assign name _ :: rest => (exposed rest).filter (· ≠ name)

theorem mem_exposed_iff (name : String) (history : List Access) :
    name ∈ exposed history ↔
      ∃ before answer after,
        history = before ++ .read name answer :: after ∧ lastAssigned? name before = none := by
  induction history with
  | nil => simp [exposed]
  | cons access rest ih =>
      cases access with
      | read other answer =>
          rw [exposed, List.mem_cons, ih]
          constructor
          · rintro (rfl | ⟨before, found, after, rfl, unassigned⟩)
            · exact ⟨[], answer, rest, rfl, rfl⟩
            · exact ⟨.read other answer :: before, found, after, rfl, unassigned⟩
          · rintro ⟨before, found, after, same, unassigned⟩
            cases before with
            | nil =>
                cases same
                exact .inl rfl
            | cons first before =>
                cases same
                exact .inr ⟨before, found, after, rfl, unassigned⟩
      | assign other value =>
          rw [exposed, List.mem_filter, ih]
          constructor
          · rintro ⟨⟨before, found, after, rfl, unassigned⟩, different⟩
            refine ⟨.assign other value :: before, found, after, rfl, ?_⟩
            have different : ¬other = name := fun same => by simp [same] at different
            simp [lastAssigned?, unassigned, different]
          · rintro ⟨before, found, after, same, unassigned⟩
            cases before with
            | nil => cases same
            | cons first before =>
                cases same
                obtain ⟨unassigned, different⟩ := Option.or_eq_none_iff.mp unassigned
                refine ⟨⟨before, found, after, rfl, unassigned⟩, ?_⟩
                simp only [ite_eq_right_iff, reduceCtorEq, imp_false] at different
                simp [Ne.symm different]

end Access

namespace Store

/-- Assign several variables one after the other. -/
def assignAll (store : Store) (list : List (String × Value)) : Store :=
  list.foldl (fun left entry => left.set entry.1 entry.2) store

/-- The assignments are written one after the other behind the entries that are there. -/
theorem assigned_assignAll (store : Store) (list : List (String × Value)) :
    (store.assignAll list).assigned = store.assigned.putAll list := by
  induction list generalizing store with
  | nil => rfl
  | cons entry rest ih => exact ih _

/-- A variable has the value that was assigned last, or else the one that it had. -/
theorem get?_assignAll (store : Store) (history : List Access) (name : String) :
    (store.assignAll (Access.assignments history)).get? name =
      (Access.lastAssigned? name history).or (store.get? name) := by
  induction history generalizing store with
  | nil => rfl
  | cons access rest ih =>
      cases access with
      | read other answer => exact ih store
      | assign other value =>
          refine (ih (store.set other value)).trans ?_
          rw [Access.lastAssigned?, get?_set, Option.or_assoc]
          split <;> rfl

/-- Names keep their places, and new ones follow in the order of their first assignment. -/
theorem names_assignAll (store : Store) (list : List (String × Value)) :
    (store.assignAll list).names =
      store.names ++ ((list.map Prod.fst).filter (· ∉ store.names)).eraseDups := by
  unfold names
  rw [assigned_assignAll, Entries.keys_putAll]

end Store

namespace Dialogue

def noFiles : Files := fun _ => .error (.system 2)

variable {ε δ α β : Type}

/-- What a dialogue reads and assigns when it runs from a store, in order. -/
def history (files : Files) : Dialogue ε α → Store → List Access
  | .done _, _ => []
  | .unfinished, _ => []
  | .read name next, store =>
      .read name (store.get? name) :: history files (next (store.get? name)) store
  | .assign name value next, store =>
      .assign name value :: history files next (store.set name value)
  | .openFile _ path next, store => history files (next (files path)) store

/-- What follows a dialogue adds its accesses behind those of the dialogue. -/
theorem history_andThen (files : Files) (dialogue : Dialogue ε α)
    (continuation : Except ε α → Dialogue δ β) (store : Store) :
    (dialogue.andThen continuation).history files store =
      dialogue.history files store ++
        match dialogue.run files store with
        | (some result, left) => (continuation result).history files left
        | (none, _) => [] := by
  induction dialogue generalizing store with
  | done result => rfl
  | unfinished => rfl
  | read name next ih => exact congrArg (Access.read name _ :: ·) (ih _ store)
  | assign name value next ih => exact congrArg (Access.assign name value :: ·) (ih _)
  | openFile depth path next ih => exact ih _ store

@[simp] theorem history_mapError (files : Files) (change : ε → δ) (dialogue : Dialogue ε α)
    (store : Store) :
    (dialogue.mapError change).history files store = dialogue.history files store := by
  unfold mapError
  rw [history_andThen]
  match dialogue.run files store with
  | (some (.ok value), left) => exact List.append_nil _
  | (some (.error error), left) => exact List.append_nil _
  | (none, left) => exact List.append_nil _

theorem run_store (files : Files) (dialogue : Dialogue ε α) (store : Store) :
    (dialogue.run files store).2 =
      store.assignAll (Access.assignments (dialogue.history files store)) := by
  induction dialogue generalizing store with
  | done result => rfl
  | unfinished => rfl
  | read name next ih => exact ih _ store
  | assign name value next ih => exact ih _
  | openFile depth path next ih => exact ih _ store

/-- A variable is found as it was assigned last, or else as it was at the start. -/
theorem answer_of_history {files : Files} {dialogue : Dialogue ε α} {store : Store}
    {before after : List Access} {name : String} {answer : Option Value}
    (happened : dialogue.history files store = before ++ .read name answer :: after) :
    answer = (Access.lastAssigned? name before).or (store.get? name) := by
  induction dialogue generalizing store before with
  | done result => cases before <;> cases happened
  | unfinished => cases before <;> cases happened
  | read other next ih =>
      cases before with
      | nil =>
          cases happened
          rfl
      | cons first before =>
          obtain ⟨rfl, later⟩ := List.cons.inj happened
          rw [ih _ later]
          rfl
  | assign other value next ih =>
      cases before with
      | nil => cases happened
      | cons first before =>
          obtain ⟨rfl, later⟩ := List.cons.inj happened
          rw [ih later, Access.lastAssigned?, Store.get?_set, Option.or_assoc]
          split <;> rfl
  | openFile depth path next ih => exact ih _ happened

end Dialogue

end TaggedConfig
