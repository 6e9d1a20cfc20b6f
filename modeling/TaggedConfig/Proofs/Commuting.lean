import Mathlib
import TaggedConfig.Proofs.Dialogue.Agreement
import TaggedConfig.Proofs.Failing.Place

/-!
# Runs that can change places

Two runs, one after the other, can change places if neither of them assigns a variable that the other
reads or assigns.  Each of them finds what it has found before, and so does the same; only variables
that are new can be in another order afterwards.
-/

namespace TaggedConfig

namespace Access

def name : Access → String
  | .read name _ => name
  | .assign name _ => name

/-- No variable that is assigned in one history occurs in the other. -/
def Spares (history other : List Access) : Prop :=
  ∀ name value, .assign name value ∈ history → name ∉ other.map Access.name

theorem mem_of_lastAssigned? {name : String} {value : Value} {history : List Access}
    (last : lastAssigned? name history = some value) : .assign name value ∈ history := by
  induction history with
  | nil => cases last
  | cons access rest ih =>
      cases access with
      | read other answer => exact List.mem_cons_of_mem _ (ih last)
      | assign other written =>
          rcases Option.or_eq_some_iff.mp last with later | ⟨_, here⟩
          · exact List.mem_cons_of_mem _ (ih later)
          · split at here
            · rename_i same
              cases here
              exact same ▸ List.mem_cons_self
            · cases here

theorem mem_assignments {entry : String × Value} {history : List Access} :
    entry ∈ assignments history ↔ .assign entry.1 entry.2 ∈ history := by
  induction history with
  | nil => simp [assignments]
  | cons access rest ih =>
      cases access with
      | read name answer => simp [assignments, ih]
      | assign name value => simp [assignments, ih, Prod.ext_iff]

theorem Spares.unassigned {history other : List Access} (spared : Spares history other)
    {access : Access} (occurs : access ∈ other) : lastAssigned? access.name history = none := by
  match last : lastAssigned? access.name history with
  | none => rfl
  | some value =>
      exact absurd (List.mem_map_of_mem occurs) (spared _ value (mem_of_lastAssigned? last))

/-- The names that are assigned in one history are not assigned in another that is spared. -/
theorem Spares.not_mem_assignments {history other : List Access} (spared : Spares history other)
    {name : String} (assigned : name ∈ (assignments history).map Prod.fst) :
    name ∉ (assignments other).map Prod.fst := by
  intro found
  obtain ⟨⟨_, value⟩, written, rfl⟩ := List.mem_map.mp assigned
  obtain ⟨⟨_, otherValue⟩, overwritten, same⟩ := List.mem_map.mp found
  refine spared _ value (mem_assignments.mp written) ?_
  exact List.mem_map.mpr ⟨_, mem_assignments.mp overwritten, same⟩

end Access

namespace Store

def newNames (store : Store) (list : List (String × Value)) : List String :=
  ((list.map Prod.fst).filter (· ∉ store.names)).eraseDups

/-- Assignments to other variables leave new variables new. -/
theorem newNames_assignAll (store : Store) {first second : List (String × Value)}
    (apart : ∀ name ∈ second.map Prod.fst, name ∉ first.map Prod.fst) :
    (store.assignAll first).newNames second = store.newNames second := by
  have same : (second.map Prod.fst).filter (· ∉ (store.assignAll first).names) =
      (second.map Prod.fst).filter (· ∉ store.names) := by
    refine List.filter_congr fun name assigned => decide_eq_decide.mpr (not_congr ?_)
    rw [names_assignAll, List.mem_append, List.mem_eraseDups, List.mem_filter]
    exact or_iff_left fun new => apart name assigned new.1
  exact congrArg List.eraseDups same

/-- Assignments to other variables add their names behind each other. -/
theorem names_assignAll_assignAll (store : Store) {first second : List (String × Value)}
    (apart : ∀ name ∈ second.map Prod.fst, name ∉ first.map Prod.fst) :
    ((store.assignAll first).assignAll second).names =
      store.names ++ (store.newNames first ++ store.newNames second) := by
  calc
    ((store.assignAll first).assignAll second).names =
        (store.assignAll first).names ++ (store.assignAll first).newNames second :=
      names_assignAll _ second
    _ = (store.names ++ store.newNames first) ++ store.newNames second := by
      rw [newNames_assignAll store apart]
      exact congrArg (· ++ _) (names_assignAll store first)
    _ = store.names ++ (store.newNames first ++ store.newNames second) :=
      List.append_assoc _ _ _

/-- Assignments of which neither concerns the other's variables can change places. -/
theorem get?_assignAll_swapped (store : Store) {first second : List Access}
    (sparing : Access.Spares second first) (name : String) :
    ((store.assignAll (Access.assignments second)).assignAll (Access.assignments first)).get? name =
      ((store.assignAll (Access.assignments first)).assignAll
        (Access.assignments second)).get? name := by
  simp only [get?_assignAll, ← Option.or_assoc]
  congr 1
  match last : Access.lastAssigned? name first with
  | none => rw [Option.none_or, Option.or_none]
  | some value =>
      have unassigned : Access.lastAssigned? name second = none :=
        sparing.unassigned (Access.mem_of_lastAssigned? last)
      rw [unassigned, Option.none_or, Option.or_none]

end Store

namespace Dialogue

variable {ε α : Type} {files : Files}

theorem run_eq_before {dialogue : Dialogue ε α} {store : Store} {history : List Access}
    (spared : Access.Spares history
      (dialogue.history files (store.assignAll (Access.assignments history)))) :
    (dialogue.run files store).1 =
        (dialogue.run files (store.assignAll (Access.assignments history))).1 ∧
      dialogue.history files store =
        dialogue.history files (store.assignAll (Access.assignments history)) := by
  refine run_eq_of_agree fun name found => ?_
  obtain ⟨before, answer, after, happened, _⟩ := (Access.mem_exposed_iff name _).mp found
  have occurs : .read name answer ∈ dialogue.history files
      (store.assignAll (Access.assignments history)) := by
    rw [happened]
    exact List.mem_append_right before List.mem_cons_self
  have unassigned : Access.lastAssigned? name history = none := spared.unassigned occurs
  rw [Store.get?_assignAll, unassigned, Option.none_or]

theorem run_eq_behind {dialogue : Dialogue ε α} {store : Store} {history : List Access}
    (spared : Access.Spares history (dialogue.history files store)) :
    (dialogue.run files (store.assignAll (Access.assignments history))).1 =
        (dialogue.run files store).1 ∧
      dialogue.history files (store.assignAll (Access.assignments history)) =
        dialogue.history files store := by
  refine run_eq_of_agree fun name found => ?_
  have unassigned : Access.lastAssigned? name history = none :=
    spared.unassigned (answer_of_exposed found)
  rw [Store.get?_assignAll, unassigned, Option.none_or]

/-- A run with a value leaves the store that its assignments make. -/
theorem Yields.left_eq {dialogue : Dialogue ε α} {store left : Store} {value : α}
    (yields : dialogue.Yields files store value left) :
    left = store.assignAll (Access.assignments (dialogue.history files store)) := by
  rw [← run_store, yields]

variable {β : Type}

/--
Two runs of which neither assigns what the other reads or assigns can change places.  Both do the
same as before, the variables have the same values, and new ones are in the new order.
-/
theorem yields_swapped {first : Dialogue ε α} {second : Dialogue ε β} {store middle left : Store}
    {value : α} {other : β} (firstRun : first.Yields files store value middle)
    (secondRun : second.Yields files middle other left)
    (spared : Access.Spares (first.history files store) (second.history files middle))
    (sparing : Access.Spares (second.history files middle) (first.history files store)) :
    ∃ between swapped,
      second.Yields files store other between ∧ first.Yields files between value swapped ∧
      second.history files store = second.history files middle ∧
      first.history files between = first.history files store ∧
      (∀ name, swapped.get? name = left.get? name) ∧
      ∃ ofFirst ofSecond,
        left.names = store.names ++ (ofFirst ++ ofSecond) ∧
        swapped.names = store.names ++ (ofSecond ++ ofFirst) := by
  have leftMade := secondRun.left_eq
  have middleMade := firstRun.left_eq
  subst leftMade middleMade
  generalize happened : first.history files store = ofFirst at *
  generalize followed : second.history files (store.assignAll (Access.assignments ofFirst)) =
    ofSecond at *
  obtain ⟨secondResult, secondHistory⟩ := run_eq_before (followed.symm ▸ spared)
  obtain ⟨firstResult, firstHistory⟩ := run_eq_behind (happened.symm ▸ sparing)
  rw [followed] at secondHistory
  rw [happened] at firstHistory
  have secondEarlier : second.Yields files store other
      (store.assignAll (Access.assignments ofSecond)) := by
    refine Prod.ext (secondResult.trans (congrArg Prod.fst secondRun :)) ?_
    rw [run_store, secondHistory]
  have firstLater : first.Yields files (store.assignAll (Access.assignments ofSecond)) value
      ((store.assignAll (Access.assignments ofSecond)).assignAll
        (Access.assignments ofFirst)) := by
    refine Prod.ext (firstResult.trans (congrArg Prod.fst firstRun :)) ?_
    rw [run_store, firstHistory]
  refine ⟨_, _, secondEarlier, firstLater, secondHistory, firstHistory,
    store.get?_assignAll_swapped sparing, store.newNames (Access.assignments ofFirst),
    store.newNames (Access.assignments ofSecond), ?_, ?_⟩
  · exact store.names_assignAll_assignAll fun _ => sparing.not_mem_assignments
  · exact store.names_assignAll_assignAll fun _ => spared.not_mem_assignments

end Dialogue

/-- Nodes that do not touch each other's variables can be resolved in either order. -/
theorem Loader.nodes_change_places (loader : Loader) (host : Surroundings) (files : Dialogue.Files)
    (here : Standpoint) (store middle left : Store) (a b : Yaml.Node) (ofA ofB : Value)
    (firstRun : ((here.scope loader host).resolve a).Yields files store ofA middle)
    (secondRun : ((here.scope loader host).resolve b).Yields files middle ofB left)
    (spared : Access.Spares (((here.scope loader host).resolve a).history files store)
      (((here.scope loader host).resolve b).history files middle))
    (sparing : Access.Spares (((here.scope loader host).resolve b).history files middle)
      (((here.scope loader host).resolve a).history files store)) :
    ∃ between swapped,
      ((here.scope loader host).resolve b).Yields files store ofB between ∧
      ((here.scope loader host).resolve a).Yields files between ofA swapped ∧
      (∀ name, swapped.get? name = left.get? name) ∧
      ∃ newOfA newOfB,
        left.names = store.names ++ (newOfA ++ newOfB) ∧
        swapped.names = store.names ++ (newOfB ++ newOfA) := by
  obtain ⟨between, swapped, secondEarlier, firstLater, _, _, values, names⟩ :=
    Dialogue.yields_swapped firstRun secondRun spared sparing
  exact ⟨between, swapped, secondEarlier, firstLater, values, names⟩

/-- An assignment, and a sequence that reads one variable and assigns another, change places. -/
theorem Loader.nodes_change_places_of_assignments :
    let here : Standpoint := ⟨⟨"."⟩, 0⟩
    let scope := here.scope basic .atRoot
    let store : Store := ⟨[("c", .null)]⟩
    let a : Yaml.Node := .tagged "!store" (.sequence [.string "a", .integer 1])
    let b : Yaml.Node := .sequence
      [.tagged "!load" (.string "c"), .tagged "!store" (.sequence [.string "b", .integer 2])]
    ∃ between swapped,
      (scope.resolve b).Yields Dialogue.noFiles store (.sequence [.null, .integer 2]) between ∧
      (scope.resolve a).Yields Dialogue.noFiles between (.integer 1) swapped ∧
      swapped.get? "a" = some (.integer 1) ∧ swapped.get? "b" = some (.integer 2) := by
  intro here scope store a b
  have firstRun : (scope.resolve a).Yields Dialogue.noFiles store (.integer 1)
      ⟨[("c", .null), ("a", .integer 1)]⟩ := by
    unfold Dialogue.Yields
    cbv
  have secondRun : (scope.resolve b).Yields Dialogue.noFiles ⟨[("c", .null), ("a", .integer 1)]⟩
      (.sequence [.null, .integer 2]) ⟨[("c", .null), ("a", .integer 1), ("b", .integer 2)]⟩ := by
    unfold Dialogue.Yields
    cbv
  have ofFirst : (scope.resolve a).history Dialogue.noFiles store = [.assign "a" (.integer 1)] := by
    cbv
  have ofSecond : (scope.resolve b).history Dialogue.noFiles
      ⟨[("c", .null), ("a", .integer 1)]⟩ =
        [.read "c" (some .null), .assign "b" (.integer 2)] := by
    cbv
  have spared : Access.Spares ((scope.resolve a).history Dialogue.noFiles store)
      ((scope.resolve b).history Dialogue.noFiles ⟨[("c", .null), ("a", .integer 1)]⟩) := by
    rw [ofFirst, ofSecond]
    simp [Access.Spares, Access.name]
  have sparing : Access.Spares
      ((scope.resolve b).history Dialogue.noFiles ⟨[("c", .null), ("a", .integer 1)]⟩)
      ((scope.resolve a).history Dialogue.noFiles store) := by
    rw [ofFirst, ofSecond]
    simp [Access.Spares, Access.name]
  obtain ⟨between, swapped, secondEarlier, firstLater, values, -⟩ :=
    nodes_change_places basic .atRoot Dialogue.noFiles here store _ _ a b _ _ firstRun secondRun
      spared sparing
  exact ⟨between, swapped, secondEarlier, firstLater, values "a", values "b"⟩

end TaggedConfig
