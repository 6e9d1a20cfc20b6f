/-!
# Steps that may fail

A chain of steps succeeds only if every step does, so the value at its end can be traced back
through the values in between.
-/

namespace TaggedConfig

variable {ε α β : Type}

/-- A chain that succeeds has a value in between. -/
theorem exists_of_bind_eq_ok {first : Except ε α} {next : α → Except ε β} {value : β}
    (done : (first >>= next) = .ok value) :
    ∃ middle, first = .ok middle ∧ next middle = .ok value := by
  cases first with
  | ok middle => exact ⟨middle, rfl, done⟩
  | error error => cases done

/-- What is changed at the end of a success was there before. -/
theorem exists_of_map_eq_ok {change : α → β} {result : Except ε α} {value : β}
    (done : result.map change = .ok value) :
    ∃ before, result = .ok before ∧ change before = value := by
  cases result with
  | ok before => exact ⟨before, rfl, Except.ok.inj done⟩
  | error error => cases done

/-- A choice that succeeds has taken one of its two sides. -/
theorem of_ite_eq_ok {condition : Prop} [Decidable condition] {yes no : Except ε α} {value : α}
    {goal : Prop} (done : (if condition then yes else no) = .ok value)
    (onYes : yes = .ok value → goal) (onNo : no = .ok value → goal) : goal := by
  split at done
  · exact onYes done
  · exact onNo done

theorem mapM_eq_ok_iff {step : α → Except ε β} {back : β → Option α}
    (inverse : ∀ item value, step item = .ok value ↔ back value = some item) {items : List α}
    {values : List β} : items.mapM step = .ok values ↔ values.mapM back = some items := by
  induction items generalizing values with
  | nil =>
      cases values with
      | nil => exact ⟨fun _ => rfl, fun _ => rfl⟩
      | cons value values =>
          refine ⟨nofun, fun undone => ?_⟩
          rw [List.mapM_cons] at undone
          obtain ⟨item, -, later⟩ := Option.bind_eq_some_iff.mp undone
          obtain ⟨rest, -, last⟩ := Option.bind_eq_some_iff.mp later
          cases last
  | cons item items ih =>
      rw [List.mapM_cons]
      constructor
      · intro done
        obtain ⟨value, here, later⟩ := exists_of_bind_eq_ok done
        obtain ⟨rest, behind, last⟩ := exists_of_bind_eq_ok later
        cases last
        rw [List.mapM_cons, (inverse item value).mp here, ih.mp behind]
        rfl
      · intro undone
        cases values with
        | nil => cases undone
        | cons value values =>
            rw [List.mapM_cons] at undone
            obtain ⟨first, here, later⟩ := Option.bind_eq_some_iff.mp undone
            obtain ⟨rest, behind, last⟩ := Option.bind_eq_some_iff.mp later
            cases last
            rw [(inverse item value).mpr here, ih.mpr behind]
            rfl

theorem mapM_eq_error_iff {step : α → Except ε β} {items : List α} {error : ε} :
    items.mapM step = .error error ↔ ∃ before item after, items = before ++ item :: after ∧
      (∀ earlier ∈ before, ∃ value, step earlier = .ok value) ∧ step item = .error error := by
  constructor
  · intro failed
    induction items with
    | nil => cases failed
    | cons item items ih =>
        rw [List.mapM_cons] at failed
        cases here : step item with
        | error found =>
            rw [here] at failed
            cases failed
            exact ⟨[], item, items, rfl, nofun, here⟩
        | ok value =>
            rw [here] at failed
            cases behind : items.mapM step with
            | error found =>
                have same : found = error := by
                  rw [behind] at failed
                  exact Except.error.inj failed
                subst same
                obtain ⟨before, first, after, rfl, fine, refused⟩ := ih behind
                refine ⟨item :: before, first, after, rfl, ?_, refused⟩
                exact List.forall_mem_cons.mpr ⟨⟨value, here⟩, fine⟩
            | ok values =>
                rw [behind] at failed
                cases failed
  · rintro ⟨before, item, after, rfl, fine, refused⟩
    induction before with
    | nil =>
        rw [List.nil_append, List.mapM_cons, refused]
        rfl
    | cons first before ih =>
        obtain ⟨⟨value, here⟩, others⟩ := List.forall_mem_cons.mp fine
        rw [List.cons_append, List.mapM_cons, here, ih others]
        rfl

def OnlyFails (possible : ε → Prop) (result : Except ε α) : Prop :=
  ∀ error, result = .error error → possible error

namespace OnlyFails

variable {possible : ε → Prop} {result : Except ε α}

theorem ok (value : α) : OnlyFails possible (.ok value : Except ε α) := nofun

theorem error {error : ε} (suits : possible error) :
    OnlyFails possible (.error error : Except ε α) :=
  fun _ same => Except.error.inj same ▸ suits

theorem bind {next : α → Except ε β} (first : OnlyFails possible result)
    (second : ∀ value, result = .ok value → OnlyFails possible (next value)) :
    OnlyFails possible (result >>= next) := by
  cases result with
  | ok value => exact second value rfl
  | error error => exact .error (first error rfl)

theorem mapError {δ : Type} {result : Except δ α} {change : δ → ε}
    (suits : ∀ error, possible (change error)) : OnlyFails possible (result.mapError change) := by
  cases result with
  | ok value => exact .ok value
  | error error => exact .error (suits error)

theorem mapM {items : List α} {step : α → Except ε β}
    (each : ∀ item, OnlyFails possible (step item)) : OnlyFails possible (items.mapM step) := by
  induction items with
  | nil => exact .ok []
  | cons item rest ih =>
      rw [List.mapM_cons]
      exact .bind (each item) fun value _ => .bind ih fun values _ => .ok (value :: values)

theorem foldlM {items : List α} {step : β → α → Except ε β} {start : β}
    (each : ∀ reached item, OnlyFails possible (step reached item)) :
    OnlyFails possible (items.foldlM step start) := by
  induction items generalizing start with
  | nil => exact .ok start
  | cons item rest ih =>
      rw [List.foldlM_cons]
      exact .bind (each start item) fun reached _ => ih

end OnlyFails

end TaggedConfig
