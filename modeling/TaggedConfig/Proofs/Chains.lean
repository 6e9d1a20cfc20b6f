import TaggedConfig.Proofs.Failing.Place
import TaggedConfig.Proofs.Shapes

/-!
# Chains of assignments

The value text of an assignment can be an assignment again.  A chain of them resolves the text at
its end first, and only once; with the value it then assigns its variables from the inside to the
outside.  Without a value it assigns nothing.
-/

namespace TaggedConfig

/-- Going on with the value itself changes nothing. -/
theorem Dialogue.bind_ofValue {ε α : Type} (dialogue : Dialogue ε α) :
    dialogue.bind ofValue = dialogue := by
  induction dialogue with
  | done result => cases result <;> rfl
  | unfinished => rfl
  | read name next ih => exact congrArg (Dialogue.read name) (funext ih)
  | assign name value next ih => exact congrArg (Dialogue.assign name value) ih
  | openFile depth path next ih => exact congrArg (Dialogue.openFile depth path) (funext ih)

/-- The text that assigns the value of a text to several variables. -/
def Implicit.chain (names : List String) (valueText : String) : String :=
  names.foldr (fun name rest => name ++ " <= " ++ rest) valueText

def Resolving.assignEach : List String → Value → Resolving Value
  | [], value => .ofValue value
  | name :: rest, value => Dialogue.assign name value (assignEach rest value)

/-- Assigning a variable the same value last of all keeps assigning them one after the other. -/
theorem Resolving.assignEach_append (names : List String) (name : String) (value : Value) :
    assignEach (names ++ [name]) value = (assignEach names value).bind (assign name) := by
  induction names with
  | nil => rfl
  | cons first rest ih => exact congrArg (Dialogue.assign first value) ih

theorem Resolving.run_assignEach (files : Dialogue.Files) (names : List String) (value : Value)
    (store : Store) :
    (assignEach names value).run files store =
      (some (.ok value), store.assignAll (names.map (·, value))) := by
  induction names generalizing store with
  | nil => rfl
  | cons name rest ih => exact ih (store.set name value)

theorem Resolving.history_assignEach (files : Dialogue.Files) (names : List String) (value : Value)
    (store : Store) :
    (assignEach names value).history files store = names.map (Access.assign · value) := by
  induction names generalizing store with
  | nil => rfl
  | cons name rest ih => exact congrArg (Access.assign name value :: ·) (ih (store.set name value))

/-- Variables that are assigned the same value have it, in whatever order and however often. -/
theorem Store.get?_assignAll_same (store : Store) (names : List String) (value : Value)
    (name : String) :
    (store.assignAll (names.map (·, value))).get? name =
      if name ∈ names then some value else store.get? name := by
  induction names generalizing store with
  | nil => rfl
  | cons first rest ih =>
      refine (ih (store.set first value)).trans ?_
      rw [get?_set]
      by_cases later : name ∈ rest
      · rw [if_pos later, if_pos (List.mem_cons_of_mem first later)]
      · rw [if_neg later]
        by_cases here : first = name
        · subst here
          rw [if_pos rfl, if_pos List.mem_cons_self]
        · have neither : name ∉ first :: rest := by
            rw [List.mem_cons, not_or]
            exact ⟨Ne.symm here, later⟩
          rw [if_neg here, if_neg neither]

namespace Scope

open Implicit

/-- A text on one line that does not begin with white space. -/
structure IsFinal (valueText : String) : Prop where
  nonempty : valueText ≠ ""
  line : '\n' ∉ valueText.toList
  begins : ∀ c ∈ valueText.toList.head?, Text.isSpace c = false

/-- A name, an arrow and a text are on one line again and begin with the name. -/
theorem IsFinal.arrow {name valueText : String} (final : IsFinal valueText)
    (named : IsName name.toList) : IsFinal (name ++ " <= " ++ valueText) := by
  obtain ⟨c, rest, written⟩ := List.exists_cons_of_ne_nil named.nonempty
  have whole : (name ++ " <= " ++ valueText).toList =
      c :: (rest ++ [' ', '<', '=', ' '] ++ valueText.toList) := by
    simp [written]
  refine ⟨?_, ?_, fun d first => ?_⟩
  · rintro empty
    rw [empty] at whole
    cases whole
  · have inName : '\n' ∉ name.toList := fun found => named.ne_of_mem found (by simp [signs]) rfl
    simp [inName, final.line]
  · rw [whole] at first
    cases first
    have word := named.letters c (by rw [written]; exact List.mem_cons_self)
    rw [Bool.eq_false_iff]
    intro space
    rw [Text.isWord_of_isSpace space] at word
    cases word

variable {names : List String} {valueText : String}

theorem IsFinal.chain (final : IsFinal valueText) (named : ∀ name ∈ names, IsName name.toList) :
    IsFinal (chain names valueText) := by
  induction names with
  | nil => exact final
  | cons name rest ih =>
      obtain ⟨here, later⟩ := List.forall_mem_cons.mp named
      exact (ih later).arrow here

/-- One more assignment resolves the rest of the chain and then assigns its own variable. -/
theorem resolve_arrow (scope : Scope) {name : String} (named : IsName name.toList)
    (final : IsFinal valueText) :
    scope.resolve (.string (name ++ " <= " ++ valueText)) =
        (scope.resolveValueText valueText).bind (Resolving.assign name) ∧
      scope.resolveValueText (name ++ " <= " ++ valueText) =
        (scope.resolveValueText valueText).bind (Resolving.assign name) := by
  have asked := ofText?_arrow named final.nonempty final.line final.begins
  constructor
  · unfold resolve
    rw [resolveNode, resolveText, asked]
    rfl
  · rw [resolveValueText_eq, resolveValueTextWith, asked]
    rfl

/-- As a value text, a chain resolves its end and then assigns its variables from the inside. -/
theorem resolveValueText_chain (scope : Scope) (named : ∀ name ∈ names, IsName name.toList)
    (final : IsFinal valueText) :
    scope.resolveValueText (chain names valueText) =
      (scope.resolveValueText valueText).bind (Resolving.assignEach names.reverse) := by
  induction names with
  | nil => exact (Dialogue.bind_ofValue _).symm
  | cons name rest ih =>
      obtain ⟨here, later⟩ := List.forall_mem_cons.mp named
      have outer := (scope.resolve_arrow here (final.chain later)).2
      change scope.resolveValueText (name ++ " <= " ++ chain rest valueText) = _
      rw [outer, ih later, Dialogue.bind_assoc, List.reverse_cons]
      congr 1
      funext value
      exact (Resolving.assignEach_append rest.reverse name value).symm

/-- A chain of at least one assignment is the same as a scalar and as a value text. -/
theorem resolve_chain (scope : Scope) (nonempty : names ≠ [])
    (named : ∀ name ∈ names, IsName name.toList) (final : IsFinal valueText) :
    scope.resolve (.string (chain names valueText)) =
      (scope.resolveValueText valueText).bind (Resolving.assignEach names.reverse) := by
  obtain ⟨name, rest, rfl⟩ := List.exists_cons_of_ne_nil nonempty
  obtain ⟨here, later⟩ := List.forall_mem_cons.mp named
  obtain ⟨asScalar, asValueText⟩ := scope.resolve_arrow here (final.chain later)
  rw [← scope.resolveValueText_chain named final]
  exact asScalar.trans asValueText.symm

/--
A chain of assignments is all or nothing.  If the text at its end has a value, the chain has it too,
and behind all that this text does it assigns the value to each variable, the innermost first.  If
it has none, the chain ends just like it and leaves the same store.
-/
theorem run_chain (scope : Scope) (files : Dialogue.Files) (store : Store) (nonempty : names ≠ [])
    (named : ∀ name ∈ names, IsName name.toList) (final : IsFinal valueText) :
    let inner := scope.resolveValueText valueText
    let outer := scope.resolve (.string (chain names valueText))
    match inner.run files store with
    | (some (.ok value), left) =>
        outer.run files store = (some (.ok value), left.assignAll (names.reverse.map (·, value))) ∧
          outer.history files store =
            inner.history files store ++ names.reverse.map (Access.assign · value) ∧
          ∀ name ∈ names, (outer.run files store).2.get? name = some value
    | (some (.error failure), left) =>
        outer.run files store = (some (.error failure), left) ∧
          outer.history files store = inner.history files store
    | (none, left) =>
        outer.run files store = (none, left) ∧
          outer.history files store = inner.history files store := by
  intro inner outer
  have whole : outer = inner.bind (Resolving.assignEach names.reverse) :=
    scope.resolve_chain nonempty named final
  match ended : inner.run files store with
  | (some (.ok value), left) =>
      have run : outer.run files store =
          (some (.ok value), left.assignAll (names.reverse.map (·, value))) := by
        rw [whole, Dialogue.run_bind, ended]
        exact Resolving.run_assignEach files names.reverse value left
      have history : outer.history files store =
          inner.history files store ++ names.reverse.map (Access.assign · value) := by
        rw [whole, Dialogue.history_bind, ended]
        exact congrArg (inner.history files store ++ ·)
          (Resolving.history_assignEach files names.reverse value left)
      refine ⟨run, history, fun name found => ?_⟩
      rw [run, Store.get?_assignAll_same, if_pos (List.mem_reverse.mpr found)]
  | (some (.error failure), left) =>
      constructor
      · rw [whole, Dialogue.run_bind, ended]
      · rw [whole, Dialogue.history_bind, ended]
        exact List.append_nil _
  | (none, left) =>
      constructor
      · rw [whole, Dialogue.run_bind, ended]
      · rw [whole, Dialogue.history_bind, ended]
        exact List.append_nil _

/-- A chain that assigns one variable twice, where the text at its end has a value or not. -/
theorem run_chain_of_reference :
    let scope := (⟨⟨"."⟩, 0⟩ : Standpoint).scope Loader.basic .atRoot
    let outer := scope.resolve (.string "a <= b <= a <= $x")
    outer.run Dialogue.noFiles ⟨[("x", .integer 1), ("b", .null)]⟩ =
        (some (.ok (.integer 1)), ⟨[("x", .integer 1), ("b", .integer 1), ("a", .integer 1)]⟩) ∧
      outer.run Dialogue.noFiles .empty =
        (some (.error (Failure.here (.undefinedVariable "x"))), .empty) := by
  intro scope outer
  have letter {c : Char} (word : Text.isWord c = true) : IsName [c] :=
    ⟨List.cons_ne_nil c [], List.forall_mem_singleton.mpr word⟩
  have named : ∀ name ∈ ["a", "b", "a"], IsName name.toList := by
    simp only [List.forall_mem_cons, List.not_mem_nil, false_implies, implies_true, and_true]
    exact ⟨letter rfl, letter rfl, letter rfl⟩
  have final : IsFinal "$x" := ⟨by decide, by decide, fun c first => by cases first; rfl⟩
  have found : (scope.resolveValueText "$x").run Dialogue.noFiles
      ⟨[("x", .integer 1), ("b", .null)]⟩ =
        (some (.ok (.integer 1)), ⟨[("x", .integer 1), ("b", .null)]⟩) := by
    cbv
  have missing : (scope.resolveValueText "$x").run Dialogue.noFiles .empty =
      (some (.error (Failure.here (.undefinedVariable "x"))), .empty) := by
    cbv
  constructor
  · have chained := scope.run_chain Dialogue.noFiles ⟨[("x", .integer 1), ("b", .null)]⟩
      (List.cons_ne_nil "a" ["b", "a"]) named final
    simp only [found] at chained
    exact chained.1
  · have chained := scope.run_chain Dialogue.noFiles .empty
      (List.cons_ne_nil "a" ["b", "a"]) named final
    simp only [missing] at chained
    exact chained.1

end Scope

end TaggedConfig
