import TaggedConfig.Proofs.Dialogue.History
import TaggedConfig.Trail

/-!
# What holds of every run

A description relates the history of a run to its ending.  It holds of a dialogue if it holds of each
of its runs; the description of a sequence comes from those of its parts.
-/

namespace TaggedConfig

/-- Errors that have a cause, whatever else they say. -/
class HasCause (ε : Type) where
  cause : ε → Cause

instance : HasCause ConfigError := ⟨ConfigError.cause⟩

instance : HasCause Failure := ⟨fun failure => failure.error.cause⟩

/-- Why something has no value. -/
inductive Stop where
  | failed (cause : Cause)
  /-- The allowance for nested documents is used up. -/
  | cutOff

/-- The end of a run without the places of its error. -/
def ending {ε α : Type} [HasCause ε] : Option (Except ε α) → Except Stop α
  | some (.ok value) => .ok value
  | some (.error error) => .error (.failed (HasCause.cause error))
  | none => .error .cutOff

def settled {α : Type} (result : Except Cause α) : Except Stop α := result.mapError .failed

variable {ε δ α β : Type} [HasCause ε] [HasCause δ]

/-- A change of errors that keeps their causes keeps endings. -/
theorem ending_mapError {change : ε → δ}
    (kept : ∀ error, HasCause.cause (change error) = HasCause.cause error)
    (result : Option (Except ε α)) :
    ending (result.map (Except.mapError change)) = ending result := by
  match result with
  | some (.ok value) => rfl
  | some (.error error) =>
      exact congrArg (fun cause => Except.error (Stop.failed cause)) (kept error)
  | none => rfl

namespace Dialogue

variable (files : Files) (dialogue : Dialogue ε α) (continuation : α → Dialogue ε β)
  (store : Store)

/-- A sequence ends where its first part stops, or else as its second part does. -/
theorem ending_bind :
    ending ((dialogue.bind continuation).run files store).1 =
      match ending (dialogue.run files store).1 with
      | .ok value => ending ((continuation value).run files (dialogue.run files store).2).1
      | .error stop => .error stop := by
  rw [run_bind]
  match dialogue.run files store with
  | (some (.ok value), left) => rfl
  | (some (.error error), left) => rfl
  | (none, left) => rfl

theorem store_bind :
    ((dialogue.bind continuation).run files store).2 =
      match ending (dialogue.run files store).1 with
      | .ok value => ((continuation value).run files (dialogue.run files store).2).2
      | .error _ => (dialogue.run files store).2 := by
  rw [run_bind]
  match dialogue.run files store with
  | (some (.ok value), left) => rfl
  | (some (.error error), left) => rfl
  | (none, left) => rfl

theorem history_bind :
    (dialogue.bind continuation).history files store =
      dialogue.history files store ++
        match ending (dialogue.run files store).1 with
        | .ok value => (continuation value).history files (dialogue.run files store).2
        | .error _ => [] := by
  unfold bind
  rw [history_andThen]
  match dialogue.run files store with
  | (some (.ok value), left) => rfl
  | (some (.error error), left) => rfl
  | (none, left) => rfl

end Dialogue

abbrev Description (α : Type) := List Access → Except Stop α → Prop

def Dialogue.Ensures (files : Dialogue.Files) (dialogue : Dialogue ε α)
    (description : Description α) : Prop :=
  ∀ store, description (dialogue.history files store) (ending (dialogue.run files store).1)

namespace Dialogue.Ensures

variable {files : Dialogue.Files} {dialogue : Dialogue ε α} {first : Description α}
  {second : Description β}

theorem mono {weaker : Description α} (ensured : dialogue.Ensures files first)
    (implies : ∀ history result, first history result → weaker history result) :
    dialogue.Ensures files weaker :=
  fun store => implies _ _ (ensured store)

theorem ofValue {value : α} (holds : first [] (.ok value)) :
    (Dialogue.ofValue value : Dialogue ε α).Ensures files first :=
  fun _ => holds

theorem fail {error : ε} (holds : first [] (.error (.failed (HasCause.cause error)))) :
    (Dialogue.fail error : Dialogue ε α).Ensures files first :=
  fun _ => holds

theorem unfinished (holds : first [] (.error .cutOff)) :
    (Dialogue.unfinished : Dialogue ε α).Ensures files first :=
  fun _ => holds

theorem read {name : String} {next : Option Value → Dialogue ε α}
    (answered : ∀ answer, (next answer).Ensures files fun history result =>
      first (.read name answer :: history) result) :
    (Dialogue.read name next).Ensures files first :=
  fun store => answered (store.get? name) store

theorem openFile {depth : Nat} {path : Path} {next : Except ReadFailure String → Dialogue ε α}
    (answered : (next (files path)).Ensures files first) :
    (Dialogue.openFile depth path next).Ensures files first :=
  fun store => answered store

/-- A sequence stops where its first part stops, or else goes on with its value. -/
theorem bind {continuation : α → Dialogue ε β} (ensured : dialogue.Ensures files first)
    (stops : ∀ history stop, first history (.error stop) → second history (.error stop))
    (goesOn : ∀ before value, first before (.ok value) →
      (continuation value).Ensures files fun after result => second (before ++ after) result) :
    (dialogue.bind continuation).Ensures files second := by
  intro store
  have here := ensured store
  rw [history_bind, ending_bind]
  cases ended : ending (dialogue.run files store).1 with
  | ok value =>
      rw [ended] at here
      exact goesOn _ value here (dialogue.run files store).2
  | error stop =>
      rw [ended] at here
      dsimp only
      rw [List.append_nil]
      exact stops _ stop here

/-- The value at the end is changed, and nothing else. -/
theorem map {change : α → β} (ensured : dialogue.Ensures files first)
    (implies : ∀ history result, first history result → second history (result.map change)) :
    (dialogue.bind fun value => Dialogue.ofValue (change value)).Ensures files second := by
  refine bind ensured (fun history stop => implies history (.error stop)) ?_
  intro before value holds store
  have changed := implies before (.ok value) holds
  rw [← List.append_nil before] at changed
  exact changed

theorem mapError {change : ε → δ}
    (kept : ∀ error, HasCause.cause (change error) = HasCause.cause error)
    (ensured : dialogue.Ensures files first) : (dialogue.mapError change).Ensures files first := by
  intro store
  rw [history_mapError, run_mapError, ending_mapError kept]
  exact ensured store

end Dialogue.Ensures

end TaggedConfig
