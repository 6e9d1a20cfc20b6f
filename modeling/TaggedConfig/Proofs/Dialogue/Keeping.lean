import TaggedConfig.Proofs.Dialogue.Ensures

/-!
# Runs that are kept

A dialogue may stop for fewer reasons than another one and still keep the other's runs: those that
end with a value, and those that stop for a reason that counts.  If every reason counts, the two run
alike from every store.
-/

namespace TaggedConfig.Dialogue

variable {ε δ α β : Type} [HasCause ε] [HasCause δ]

def KeepsRuns (files : Files) (kept : Stop → Prop) (first second : Dialogue ε α) : Prop :=
  ∀ store, (∀ stop, ending (first.run files store).1 = .error stop → kept stop) →
    second.run files store = first.run files store

namespace KeepsRuns

variable {files : Files} {kept : Stop → Prop} {first second : Dialogue ε α}

theorem refl (dialogue : Dialogue ε α) : KeepsRuns files kept dialogue dialogue :=
  fun _ _ => rfl

/-- Nothing is to be kept of a dialogue that stops for a reason that does not count. -/
theorem of_stop {stop : Stop} (uncounted : ¬kept stop)
    (stops : ∀ store, ending (first.run files store).1 = .error stop) :
    KeepsRuns files kept first second :=
  fun store allowed => absurd (allowed stop (stops store)) uncounted

theorem openFile {depth otherDepth : Nat} {path : Path}
    {next otherNext : Except ReadFailure String → Dialogue ε α}
    (keeps : KeepsRuns files kept (next (files path)) (otherNext (files path))) :
    KeepsRuns files kept (.openFile depth path next) (.openFile otherDepth path otherNext) :=
  keeps

/-- Changing errors alike, their causes apart, keeps what is kept. -/
theorem mapError {change : ε → δ}
    (causes : ∀ error, HasCause.cause (change error) = HasCause.cause error)
    (keeps : KeepsRuns files kept first second) :
    KeepsRuns files kept (first.mapError change) (second.mapError change) := by
  intro store allowed
  have same : second.run files store = first.run files store := by
    refine keeps store fun stop stopped => allowed stop ?_
    rw [run_mapError, ending_mapError causes]
    exact stopped
  rw [run_mapError, run_mapError, same]

/-- A sequence stops where its first part stops, so that both parts are kept. -/
theorem bind {next otherNext : α → Dialogue ε β} (keeps : KeepsRuns files kept first second)
    (later : ∀ value, KeepsRuns files kept (next value) (otherNext value)) :
    KeepsRuns files kept (first.bind next) (second.bind otherNext) := by
  intro store allowed
  have same : second.run files store = first.run files store := by
    refine keeps store fun stop stopped => allowed stop ?_
    rw [ending_bind, stopped]
  rw [run_bind] at allowed ⊢
  rw [run_bind, same]
  match ran : first.run files store with
  | (some (.ok value), left) =>
      rw [ran] at allowed
      exact later value left allowed
  | (some (.error error), left) => rfl
  | (none, left) => rfl

theorem run_eq (keeps : KeepsRuns files kept first second) {store left : Store}
    {result : Except ε α} (ran : first.run files store = (some result, left))
    (counts : ∀ error, result = .error error → kept (.failed (HasCause.cause error))) :
    second.run files store = (some result, left) := by
  rw [← ran]
  refine keeps store fun stop stopped => ?_
  rw [ran] at stopped
  cases result with
  | ok value => cases stopped
  | error error =>
      cases stopped
      exact counts error rfl

end KeepsRuns

end TaggedConfig.Dialogue
