import TaggedConfig.Entries
import TaggedConfig.Number.Decimal

/-!
# Values

What a configuration consists of once every tag is resolved.  Integers have 64 bits, numbers with a
fraction are binary64, and mappings keep the order of writing.
-/

namespace TaggedConfig

/-- A resolved value. -/
inductive Value where
  | null
  | bool (value : Bool)
  | integer (value : Int64)
  | float (value : Binary64)
  | string (text : String)
  | sequence (items : List Value)
  | mapping (entries : List (String × Value))
  deriving Inhabited, Repr

/-- The kinds of values, as messages name them. -/
inductive Kind where
  | null
  | bool
  | integer
  | float
  | string
  | sequence
  | mapping
  deriving DecidableEq, Repr

def Kind.name : Kind → String
  | .null => "null"
  | .bool => "bool"
  | .integer => "integer"
  | .float => "float"
  | .string => "string"
  | .sequence => "sequence"
  | .mapping => "mapping"

namespace Value

def kind : Value → Kind
  | .null => .null
  | .bool _ => .bool
  | .integer _ => .integer
  | .float _ => .float
  | .string _ => .string
  | .sequence _ => .sequence
  | .mapping _ => .mapping

def isNull : Value → Bool
  | .null => true
  | _ => false

def text? : Value → Option String
  | .string text => some text
  | _ => none

def items? : Value → Option (List Value)
  | .sequence items => some items
  | _ => none

def entries? : Value → Option (Entries Value)
  | .mapping entries => some entries
  | _ => none

mutual

def display : Value → String
  | .null => "null"
  | .bool value => if value then "true" else "false"
  | .integer value => toString value.toInt
  | .float value => FloatStyle.plain.render value
  | .string text => text
  | .sequence items => "[" ++ displayItems items ++ "]"
  | .mapping entries => "\x7b" ++ displayEntries entries ++ "\x7d"

def displayItems : List Value → String
  | [] => ""
  | [item] => item.display
  | item :: rest => item.display ++ ", " ++ displayItems rest

def displayEntries : List (String × Value) → String
  | [] => ""
  | [(key, value)] => key ++ ": " ++ value.display
  | (key, value) :: rest => key ++ ": " ++ value.display ++ ", " ++ displayEntries rest

end

def key? : Value → Option String
  | .sequence _ | .mapping _ => none
  | scalar => some scalar.display

end Value

end TaggedConfig
