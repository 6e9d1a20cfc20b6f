import TaggedConfig.ConfigError

/-!
# Variables

Named values in the order of their first assignment.  The last assignment to a name counts, and
nothing but an assignment or a reset changes a store.
-/

namespace TaggedConfig

/-- The variables that have been assigned. -/
structure Store where
  assigned : Entries Value
  deriving Inhabited, Repr

namespace Store

def empty : Store := ⟨[]⟩

def get? (store : Store) (name : String) : Option Value := store.assigned.get? name

def get (store : Store) (name : String) : Except ConfigError Value :=
  match store.get? name with
  | some value => .ok value
  | none => .error (.ofCause (.undefinedVariable name))

def set (store : Store) (name : String) (value : Value) : Store :=
  ⟨store.assigned.put name value⟩

def contains (store : Store) (name : String) : Bool := store.assigned.contains name

def size (store : Store) : Nat := store.assigned.length

def isEmpty (store : Store) : Bool := store.assigned.isEmpty

/-- The names in the order of their first assignment. -/
def names (store : Store) : List String := store.assigned.keys

@[simp] theorem get?_empty (name : String) : empty.get? name = none := rfl

/-- An assignment is seen under its name and changes no other variable. -/
theorem get?_set (store : Store) (name other : String) (value : Value) :
    (store.set name value).get? other = if name = other then some value else store.get? other :=
  Entries.get?_put _ _ _ _

end Store

end TaggedConfig
