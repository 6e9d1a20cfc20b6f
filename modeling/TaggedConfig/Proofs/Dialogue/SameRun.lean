import TaggedConfig.Proofs.Dialogue.Ensures

/-!
# Runs that agree up to places

Two dialogues can differ in the files that they open and in the places of their errors, and still run
alike: with the same value or the same cause, and with the same store at the end.
-/

namespace TaggedConfig.Dialogue

variable {ε δ ζ α β : Type} [HasCause ε] [HasCause δ] [HasCause ζ]

/-- From every store, two dialogues end alike up to the places of errors and leave the same store. -/
def SameRun (files : Files) (first : Dialogue ε α) (second : Dialogue δ α) : Prop :=
  ∀ store, ending (first.run files store).1 = ending (second.run files store).1 ∧
    (first.run files store).2 = (second.run files store).2

namespace SameRun

variable {files : Files} {first : Dialogue ε α} {second : Dialogue δ α}

theorem refl (dialogue : Dialogue ε α) : SameRun files dialogue dialogue :=
  fun _ => ⟨rfl, rfl⟩

theorem trans {third : Dialogue ζ α} (before : SameRun files first second)
    (after : SameRun files second third) : SameRun files first third :=
  fun store => ⟨(before store).1.trans (after store).1, (before store).2.trans (after store).2⟩

theorem symm (same : SameRun files first second) : SameRun files second first :=
  fun store => ⟨(same store).1.symm, (same store).2.symm⟩

theorem of_eq {first second : Dialogue ε α} (same : first = second) : SameRun files first second :=
  same ▸ refl first

theorem openFile (depth : Nat) (path : Path) (next : Except ReadFailure String → Dialogue ε α) :
    SameRun files (.openFile depth path next) (next (files path)) :=
  fun _ => ⟨rfl, rfl⟩

/-- A change of errors that keeps their causes is not seen. -/
theorem mapError (files : Files) {change : ε → ζ}
    (kept : ∀ error, HasCause.cause (change error) = HasCause.cause error)
    (dialogue : Dialogue ε α) : SameRun files (dialogue.mapError change) dialogue := by
  intro store
  rw [run_mapError]
  exact ⟨ending_mapError kept _, rfl⟩

theorem bind {firstNext : α → Dialogue ε β} {secondNext : α → Dialogue δ β}
    (same : SameRun files first second)
    (later : ∀ value, SameRun files (firstNext value) (secondNext value)) :
    SameRun files (first.bind firstNext) (second.bind secondNext) := by
  intro store
  obtain ⟨ended, left⟩ := same store
  rw [ending_bind, ending_bind, store_bind, store_bind, ended, left]
  cases ending (second.run files store).1 with
  | ok value => exact later value (second.run files store).2
  | error stop => exact ⟨rfl, rfl⟩

end SameRun

end TaggedConfig.Dialogue
