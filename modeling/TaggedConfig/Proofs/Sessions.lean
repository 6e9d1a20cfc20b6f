import TaggedConfig.Loader
import TaggedConfig.Proofs.Dialogue.History

/-!
# Sessions with a store

A store is asked, assigned and reset, and documents are loaded against it, in any order.  All that
happens to it is a list of changes, those inside of loads included; at every time it is the dictionary
of the assignments since the last reset, with its names in the order of their first assignment.
-/

namespace TaggedConfig.Store

/-- What can happen to a store. -/
inductive Change where
  | assign (name : String) (value : Value)
  | reset

namespace Change

def apply (store : Store) : Change → Store
  | .assign name value => store.set name value
  | .reset => .empty

/-- An assignment is added to those before it, and a reset makes them forgotten. -/
def record (made : List (String × Value)) : Change → List (String × Value)
  | .assign name value => made ++ [(name, value)]
  | .reset => []

/-- The assignments since the last reset, in order. -/
def sinceReset (changes : List Change) : List (String × Value) := changes.foldl record []

end Change

def ofAssignments (made : List (String × Value)) : Store := ⟨Entries.ofList made⟩

/-- One change more leads to the store of the assignments that count then. -/
theorem apply_ofAssignments (made : List (String × Value)) (change : Change) :
    change.apply (ofAssignments made) = ofAssignments (change.record made) := by
  cases change with
  | assign name value =>
      have written : Entries.ofList (made ++ [(name, value)]) =
          (Entries.ofList made).put name value := List.foldl_append
      exact congrArg Store.mk written.symm
  | reset => rfl

/-- Changes lead to the store of the assignments since the last reset. -/
theorem foldl_apply_ofAssignments (made : List (String × Value)) (changes : List Change) :
    changes.foldl Change.apply (ofAssignments made) =
      ofAssignments (changes.foldl Change.record made) := by
  induction changes generalizing made with
  | nil => rfl
  | cons change rest ih =>
      rw [List.foldl_cons, List.foldl_cons, apply_ofAssignments]
      exact ih (change.record made)

/-- A value is found in reverse order exactly if it stands last under its name. -/
theorem get?_reverse_eq_some_iff {made : List (String × Value)} {name : String} {value : Value} :
    Entries.get? made.reverse name = some value ↔
      ∃ before after, made = before ++ (name, value) :: after ∧ name ∉ after.map Prod.fst := by
  induction made with
  | nil => simp
  | cons entry rest ih =>
      obtain ⟨first, present⟩ := entry
      rw [List.reverse_cons, Entries.get?_append]
      constructor
      · intro found
        rcases Option.or_eq_some_iff.mp found with later | ⟨absent, here⟩
        · obtain ⟨before, after, rfl, last⟩ := ih.mp later
          exact ⟨(first, present) :: before, after, rfl, last⟩
        · have unassigned : name ∉ rest.map Prod.fst := by
            simpa [Entries.keys] using (Entries.get?_eq_none_iff rest.reverse name).mp absent
          unfold Entries.get? at here
          split at here
          · rename_i same
            cases here
            exact ⟨[], rest, same ▸ rfl, unassigned⟩
          · cases here
      · rintro ⟨before, after, split, last⟩
        cases before with
        | nil =>
            cases split
            have absent : Entries.get? rest.reverse name = none :=
              (Entries.get?_eq_none_iff rest.reverse name).mpr (by simpa [Entries.keys] using last)
            rw [absent, Option.none_or, Entries.get?, if_pos rfl]
        | cons other before =>
            cases split
            rw [ih.mpr ⟨before, after, rfl, last⟩, Option.some_or]

theorem get_eq_ok_iff (store : Store) (name : String) (value : Value) :
    store.get name = .ok value ↔ store.get? name = some value := by
  unfold get
  cases store.get? name with
  | none => simp
  | some present => simp

/-- A store answers as a dictionary does after some assignments. -/
structure IsDictionaryOf (store : Store) (made : List (String × Value)) : Prop where
  /-- The names stand in the order of their first assignment. -/
  names : store.names = (made.map Prod.fst).eraseDups
  distinct : store.names.Nodup
  /-- The last assignment to a name counts. -/
  get : ∀ name value, store.get name = .ok value ↔
    ∃ before after, made = before ++ (name, value) :: after ∧ name ∉ after.map Prod.fst
  missing : ∀ name, name ∉ made.map Prod.fst →
    store.get name = .error (.ofCause (.undefinedVariable name))
  contains : ∀ name, store.contains name = true ↔ ∃ value, store.get name = .ok value
  size : store.size = store.names.length
  isEmpty : store.isEmpty = true ↔ store.names = []
  snapshot_names : store.assigned.map Prod.fst = store.names
  snapshot : ∀ name value, (name, value) ∈ store.assigned ↔ store.get name = .ok value

theorem isDictionaryOf_ofAssignments (made : List (String × Value)) :
    (ofAssignments made).IsDictionaryOf made := by
  have distinct : (ofAssignments made).names.Nodup := by
    have none : (Entries.keys ([] : Entries Value)).Nodup := List.nodup_nil
    exact Entries.nodup_putAll none made
  have found (name : String) :
      (ofAssignments made).get? name = Entries.get? made.reverse name :=
    Entries.get?_ofList made name
  constructor
  case names => exact Entries.keys_ofList made
  case distinct => exact distinct
  case get =>
    intro name value
    rw [get_eq_ok_iff, found]
    exact get?_reverse_eq_some_iff
  case missing =>
    intro name unassigned
    have absent : (ofAssignments made).get? name = none := by
      rw [found, Entries.get?_eq_none_iff]
      simpa [Entries.keys] using unassigned
    unfold Store.get
    rw [absent]
  case contains =>
    intro name
    simp only [get_eq_ok_iff]
    exact Option.isSome_iff_exists
  case size => exact (List.length_map _).symm
  case isEmpty => exact List.isEmpty_iff.trans List.map_eq_nil_iff.symm
  case snapshot_names => rfl
  case snapshot =>
    intro name value
    rw [get_eq_ok_iff]
    exact ⟨Entries.get?_of_mem distinct, Entries.mem_of_get?⟩

/-- What a store is asked and told, and what is loaded against it. -/
inductive Operation where
  | set (name : String) (value : Value)
  | get (name : String)
  | contains (name : String)
  | size
  | isEmpty
  | names
  | snapshot
  | reset
  | load (loader : Loader) (host : Surroundings) (files : Dialogue.Files) (source : Source)

inductive Reply where
  | done
  | value (result : Except ConfigError Value)
  | flag (answer : Bool)
  | count (number : Nat)
  | names (names : List String)
  | entries (entries : Entries Value)
  | loaded (result : Option (Except ConfigError Value))

namespace Operation

def perform (store : Store) : Operation → Reply × Store
  | .set name value => (.done, store.set name value)
  | .get name => (.value (store.get name), store)
  | .contains name => (.flag (store.contains name), store)
  | .size => (.count store.size, store)
  | .isEmpty => (.flag store.isEmpty, store)
  | .names => (.names store.names, store)
  | .snapshot => (.entries store.assigned, store)
  | .reset => (.done, .empty)
  | .load loader host files source =>
      let (result, left) := (loader.load host source).run files store
      (.loaded result, left)

/-- What an operation changes; of a load, the assignments up to its value or its error. -/
def changes (store : Store) : Operation → List Change
  | .set name value => [.assign name value]
  | .reset => [.reset]
  | .load loader host files source =>
      (Access.assignments ((loader.load host source).history files store)).map fun entry =>
        .assign entry.1 entry.2
  | .get _ | .contains _ | .size | .isEmpty | .names | .snapshot => []

theorem perform_store (store : Store) (operation : Operation) :
    (operation.perform store).2 = (operation.changes store).foldl Change.apply store := by
  cases operation with
  | load loader host files source =>
      change ((loader.load host source).run files store).2 = _
      rw [Dialogue.run_store, changes, List.foldl_map]
      rfl
  | _ => rfl

/-- The store behind several operations. -/
def performAll (store : Store) (operations : List Operation) : Store :=
  operations.foldl (fun store operation => (operation.perform store).2) store

def allChanges (store : Store) : List Operation → List Change
  | [] => []
  | operation :: rest => operation.changes store ++ allChanges (operation.perform store).2 rest

theorem performAll_eq (store : Store) (operations : List Operation) :
    performAll store operations = (allChanges store operations).foldl Change.apply store := by
  induction operations generalizing store with
  | nil => rfl
  | cons operation rest ih =>
      rw [allChanges, List.foldl_append, ← perform_store]
      exact ih (operation.perform store).2

end Operation

/--
After any operations on a new store, loads among them, the store is the dictionary of the assignments
since the last reset: its names in the order of their first assignment, each with the value that was
assigned last, and no others.  The next operation changes it by an assignment, by a reset, or, if it
is a load, by the assignments that are made before the load ends, with a value or with an error.
-/
theorem session_keeps_dictionary (operations : List Operation) :
    let store := Operation.performAll .empty operations
    store.IsDictionaryOf (Change.sinceReset (Operation.allChanges .empty operations)) ∧
      ∀ operation : Operation,
        (operation.perform store).2 = (operation.changes store).foldl Change.apply store := by
  intro store
  have reached : store =
      ofAssignments (Change.sinceReset (Operation.allChanges .empty operations)) :=
    (Operation.performAll_eq .empty operations).trans (foldl_apply_ofAssignments [] _)
  refine ⟨?_, Operation.perform_store store⟩
  rw [reached]
  exact isDictionaryOf_ofAssignments _

end TaggedConfig.Store
