import TaggedConfig.Implicit
import TaggedConfig.Text.Quoted

/-!
# Tags

The fixed vocabulary of tags.  Every loader knows the basic ones; the tag that selects by run mode is
added to a loader on request.
-/

namespace TaggedConfig

/-- The tags that a loader can know. -/
inductive Tag where
  | dateTime
  | product
  | sum
  | join
  | pathJoin
  | absPath
  | absPathJoin
  | includeFile
  | store
  | load
  | switchCommand
  deriving DecidableEq, Inhabited, Repr

namespace Tag

def basic : List Tag :=
  [.dateTime, .product, .sum, .join, .pathJoin, .absPath, .absPathJoin, .includeFile, .store, .load]

def all : List Tag := basic ++ [.switchCommand]

def name : Tag → String
  | .dateTime => "datetime"
  | .product => "product"
  | .sum => "sum"
  | .join => "join"
  | .pathJoin => "pathjoin"
  | .absPath => "abspath"
  | .absPathJoin => "abspathjoin"
  | .includeFile => "include"
  | .store => "store"
  | .load => "load"
  | .switchCommand => "switchcmd"

def ofName? (name : String) : Option Tag := all.find? fun tag => tag.name = name

/-- How a tag is written in front of a node. -/
def display (tag : Tag) : String := "!" ++ tag.name

theorem ofName?_name (tag : Tag) : ofName? tag.name = some tag := by
  cases tag <;> decide

end Tag

def Implicit.tag : Implicit → Tag
  | .assignment _ _ => .store
  | .reference _ => .load

/-- A tag that is added to a loader, with what it needs. -/
inductive Extension where
  /-- Select a case by a run mode; without one only the default case can be selected. -/
  | switchCommand (runMode : Option String)
  deriving DecidableEq, Inhabited, Repr

namespace Extension

def tag : Extension → Tag
  | .switchCommand _ => .switchCommand

end Extension

/-- The tags that a loader knows, in order. -/
structure TagTable where
  tags : List Tag
  deriving DecidableEq, Inhabited, Repr

namespace TagTable

def ofExtensions (extensions : List Extension) : TagTable :=
  ⟨Tag.basic ++ (extensions.map Extension.tag).eraseDups⟩

def names (table : TagTable) : List String := table.tags.map Tag.name

def get? (table : TagTable) (name : String) : Option Tag :=
  table.tags.find? fun tag => tag.name = name

theorem name_of_get? {table : TagTable} {name : String} {tag : Tag}
    (found : table.get? name = some tag) : tag.name = name := by
  have suits := List.find?_some found
  exact of_decide_eq_true suits

def contains (table : TagTable) (name : String) : Bool := (table.get? name).isSome

def describe (table : TagTable) : String :=
  "[" ++ ", ".intercalate (table.names.map Text.quoted) ++ "]"

end TagTable

end TaggedConfig
