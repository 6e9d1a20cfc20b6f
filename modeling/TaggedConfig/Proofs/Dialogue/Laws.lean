import TaggedConfig.Dialogue

/-!
# Laws of dialogues

Dialogues follow each other associatively, and changing the error at the end of a dialogue changes
neither what it asks nor what it leaves in a store.
-/

namespace TaggedConfig.Dialogue

variable {ε δ ζ α β γ : Type}

theorem andThen_andThen (dialogue : Dialogue ε α) (first : Except ε α → Dialogue δ β)
    (second : Except δ β → Dialogue ζ γ) :
    (dialogue.andThen first).andThen second =
      dialogue.andThen fun result => (first result).andThen second := by
  induction dialogue with
  | done result => rfl
  | unfinished => rfl
  | read name next ih => exact congrArg (Dialogue.read name) (funext ih)
  | assign name value next ih => exact congrArg (Dialogue.assign name value) ih
  | openFile depth path next ih => exact congrArg (Dialogue.openFile depth path) (funext ih)

@[simp] theorem ofValue_bind (value : α) (continuation : α → Dialogue ε β) :
    (ofValue value).bind continuation = continuation value := rfl

theorem bind_assoc (dialogue : Dialogue ε α) (first : α → Dialogue ε β)
    (second : β → Dialogue ε γ) :
    (dialogue.bind first).bind second = dialogue.bind fun value => (first value).bind second := by
  unfold bind
  rw [andThen_andThen]
  congr 1
  funext result
  cases result with
  | ok value => rfl
  | error error => rfl

theorem run_bind (files : Files) (dialogue : Dialogue ε α) (continuation : α → Dialogue ε β)
    (store : Store) :
    (dialogue.bind continuation).run files store =
      match dialogue.run files store with
      | (some (.ok value), left) => (continuation value).run files left
      | (some (.error error), left) => (some (.error error), left)
      | (none, left) => (none, left) := by
  unfold bind
  rw [run_andThen]
  match dialogue.run files store with
  | (some (.ok value), left) => rfl
  | (some (.error error), left) => rfl
  | (none, left) => rfl

theorem run_mapError (files : Files) (change : ε → δ) (dialogue : Dialogue ε α) (store : Store) :
    (dialogue.mapError change).run files store =
      ((dialogue.run files store).1.map (Except.mapError change),
        (dialogue.run files store).2) := by
  unfold mapError
  rw [run_andThen]
  match dialogue.run files store with
  | (some (.ok value), left) => rfl
  | (some (.error error), left) => rfl
  | (none, left) => rfl

theorem run_openFile_of_answer {files : Files} {path : Path} {answer : Except ReadFailure String}
    (answered : files path = answer) {depth : Nat} {next : Except ReadFailure String → Dialogue ε α}
    (store : Store) :
    (openFile depth path next).run files store = (next answer).run files store := by
  rw [run, answered]

end TaggedConfig.Dialogue
