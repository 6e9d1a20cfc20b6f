import TaggedConfig.Store

/-!
# What loading asks and says

Loading is a dialogue: it reads and assigns variables and opens files, one step after the other, and
ends with a value or an error.  A dialogue that may take only so many nested steps can also end
without either.  Who answers is left open; `run` answers from a store and from given files.
-/

namespace TaggedConfig

/-- A computation that asks for variables and files. -/
inductive Dialogue (ε α : Type) where
  | done (result : Except ε α)
  /-- The allowance for nested documents is used up. -/
  | unfinished
  | read (name : String) (next : Option Value → Dialogue ε α)
  | assign (name : String) (value : Value) (next : Dialogue ε α)
  /-- Read the text of a file for a document at a depth of nesting. -/
  | openFile (depth : Nat) (path : Path) (next : Except ReadFailure String → Dialogue ε α)

namespace Dialogue

variable {ε δ α β : Type}

def ofValue (value : α) : Dialogue ε α := .done (.ok value)

def fail (error : ε) : Dialogue ε α := .done (.error error)

/-- Go on after a dialogue, whichever way it ends. -/
def andThen (dialogue : Dialogue ε α) (continuation : Except ε α → Dialogue δ β) : Dialogue δ β :=
  match dialogue with
  | .done result => continuation result
  | .unfinished => .unfinished
  | .read name next => .read name fun answer => (next answer).andThen continuation
  | .assign name value next => .assign name value (next.andThen continuation)
  | .openFile depth path next =>
      .openFile depth path fun answer => (next answer).andThen continuation

def bind (dialogue : Dialogue ε α) (continuation : α → Dialogue ε β) : Dialogue ε β :=
  dialogue.andThen fun
    | .ok value => continuation value
    | .error error => fail error

instance : Monad (Dialogue ε) where
  pure := ofValue
  bind := bind

def mapError (change : ε → δ) (dialogue : Dialogue ε α) : Dialogue δ α :=
  dialogue.andThen fun
    | .ok value => ofValue value
    | .error error => fail (change error)

def ofExcept (result : Except ε α) : Dialogue ε α := .done result

def readVariable (name : String) : Dialogue ε (Option Value) := .read name ofValue

def assignVariable (name : String) (value : Value) : Dialogue ε Unit :=
  .assign name value (ofValue ())

def readFile (depth : Nat) (path : Path) : Dialogue ε (Except ReadFailure String) :=
  .openFile depth path ofValue

/-- Where a dialogue reads its files. -/
abbrev Files := Path → Except ReadFailure String

/--
The end of a dialogue and the store it leaves, if its questions are answered from a store and from
files.  A dialogue that is not finished has no result.
-/
def run (files : Files) : Dialogue ε α → Store → Option (Except ε α) × Store
  | .done result, store => (some result, store)
  | .unfinished, store => (none, store)
  | .read name next, store => run files (next (store.get? name)) store
  | .assign name value next, store => run files next (store.set name value)
  | .openFile _ path next, store => run files (next (files path)) store

@[simp] theorem pure_eq (value : α) : (pure value : Dialogue ε α) = ofValue value := rfl

@[simp] theorem bind_eq (dialogue : Dialogue ε α) (continuation : α → Dialogue ε β) :
    dialogue >>= continuation = dialogue.bind continuation := rfl

@[simp] theorem run_ofValue (files : Files) (value : α) (store : Store) :
    (ofValue value : Dialogue ε α).run files store = (some (.ok value), store) := rfl

@[simp] theorem run_fail (files : Files) (error : ε) (store : Store) :
    (fail error : Dialogue ε α).run files store = (some (.error error), store) := rfl

/-- What follows a dialogue starts from the store that the dialogue leaves. -/
theorem run_andThen (files : Files) (dialogue : Dialogue ε α)
    (continuation : Except ε α → Dialogue δ β) (store : Store) :
    (dialogue.andThen continuation).run files store =
      match dialogue.run files store with
      | (some result, left) => (continuation result).run files left
      | (none, left) => (none, left) := by
  induction dialogue generalizing store with
  | done result => rfl
  | unfinished => rfl
  | read name next ih => exact ih _ _
  | assign name value next ih => exact ih _
  | openFile depth path next ih => exact ih _ _

end Dialogue

end TaggedConfig
