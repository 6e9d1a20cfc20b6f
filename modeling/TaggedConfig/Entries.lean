/-!
# Entries

A dictionary with text keys in the order of the first writing.  A later write to a key replaces the
value in its place; a new key goes to the end.
-/

namespace TaggedConfig

/-- Keys with their values, in order. -/
abbrev Entries (α : Type) := List (String × α)

namespace Entries

variable {α : Type}

def get? : Entries α → String → Option α
  | [], _ => none
  | (other, value) :: rest, key => if other = key then some value else get? rest key

def put : Entries α → String → α → Entries α
  | [], key, value => [(key, value)]
  | (other, present) :: rest, key, value =>
      if other = key then (other, value) :: rest else (other, present) :: put rest key value

def remove : Entries α → String → Entries α
  | [], _ => []
  | (other, value) :: rest, key =>
      if other = key then rest else (other, value) :: remove rest key

def keys (entries : Entries α) : List String := entries.map Prod.fst

def contains (entries : Entries α) (key : String) : Bool := (entries.get? key).isSome

/-- Write several values one after the other. -/
def putAll (entries : Entries α) (later : List (String × α)) : Entries α :=
  later.foldl (fun written entry => put written entry.1 entry.2) entries

def ofList (list : List (String × α)) : Entries α := putAll [] list

@[simp] theorem get?_nil (key : String) : get? ([] : Entries α) key = none := rfl

@[simp] theorem keys_nil : keys ([] : Entries α) = [] := rfl

@[simp] theorem keys_cons (entry : String × α) (rest : Entries α) :
    keys (entry :: rest) = entry.1 :: keys rest := rfl

/-- A write is seen under its key and changes no other. -/
theorem get?_put (entries : Entries α) (key other : String) (value : α) :
    (entries.put key value).get? other = if key = other then some value else entries.get? other := by
  induction entries with
  | nil => rfl
  | cons entry rest ih =>
      simp only [put]
      split <;> grind [get?]

/-- A key that is present keeps its place, and a new one goes to the end. -/
theorem keys_put (entries : Entries α) (key : String) (value : α) :
    (entries.put key value).keys =
      if key ∈ entries.keys then entries.keys else entries.keys ++ [key] := by
  induction entries with
  | nil => rfl
  | cons entry rest ih =>
      simp only [put]
      split
      · simp_all
      · rename_i h
        simp only [keys_cons, ih, List.mem_cons, Ne.symm h, false_or]
        split <;> simp

end Entries

end TaggedConfig
