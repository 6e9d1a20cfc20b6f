import TaggedConfig.ConfigError

/-!
# Typed values

A value is converted to a type without loss or not at all, except that an integer may become a number
with a fraction.  The first part of a value that does not fit is named in the error.
-/

namespace TaggedConfig

/-- The types of integers that are smaller than a value's integers, or without sign. -/
inductive IntegerType where
  | signed32
  | unsigned64
  | unsigned32
  | unsigned16
  | size
  deriving DecidableEq, Inhabited, Repr

namespace IntegerType

def least : IntegerType → Int
  | .signed32 => -2147483648
  | .unsigned64 | .unsigned32 | .unsigned16 | .size => 0

def bound : IntegerType → Int
  | .signed32 => 2147483648
  | .unsigned64 | .size => 18446744073709551616
  | .unsigned32 => 4294967296
  | .unsigned16 => 65536

def name : IntegerType → String
  | .signed32 => "32-bit integer"
  | .unsigned64 | .size => "non-negative integer"
  | .unsigned32 => "32-bit unsigned integer"
  | .unsigned16 => "16-bit unsigned integer"

abbrev Carrier (type : IntegerType) : Type :=
  { value : Int // type.least ≤ value ∧ value < type.bound }

def ofInt? (type : IntegerType) (value : Int) : Option type.Carrier :=
  if fits : type.least ≤ value ∧ value < type.bound then some ⟨value, fits⟩ else none

end IntegerType

/-- The types that a value can be converted to. -/
inductive Target where
  | string
  | bool
  | double
  | single
  | integer
  | narrow (type : IntegerType)
  | mapping
  | textMapping
  | list (item : Target)
  deriving DecidableEq, Inhabited, Repr

namespace Target

@[reducible] def Carrier : Target → Type
  | .string => String
  | .bool => Bool
  | .double => Binary64
  | .single => Binary32
  | .integer => Int64
  | .narrow type => type.Carrier
  | .mapping => Entries Value
  | .textMapping => Entries String
  | .list item => List item.Carrier

def mismatch (expected : String) (value : Value) : Cause :=
  .conversion expected (value.kind.name ++ " `" ++ value.display ++ "`")

def toText : Value → Except Cause String
  | .string text => .ok text
  | other => .error (mismatch "string" other)

def toDouble : Value → Except Cause Binary64
  | .float value => .ok value
  | .integer value => .ok (.ofInt value.toInt)
  | other => .error (mismatch "number" other)

def toNarrow (type : IntegerType) (value : Value) : Except Cause type.Carrier :=
  match value with
  | .integer held =>
      match type.ofInt? held.toInt with
      | some fitting => .ok fitting
      | none => .error (mismatch type.name value)
  | other => .error (mismatch type.name other)

def toTexts (entries : Entries Value) : Except Cause (Entries String) :=
  entries.mapM fun entry => do return (entry.1, ← toText entry.2)

/-- Convert a value. -/
def convert : (target : Target) → Value → Except Cause target.Carrier
  | .string, value => toText value
  | .bool, .bool value => .ok value
  | .bool, other => .error (mismatch "bool" other)
  | .double, value => toDouble value
  | .single, value => (toDouble value).map Binary.convert
  | .integer, .integer value => .ok value
  | .integer, other => .error (mismatch "integer" other)
  | .narrow type, value => toNarrow type value
  | .mapping, .mapping entries => .ok entries
  | .mapping, other => .error (mismatch "mapping" other)
  | .textMapping, .mapping entries => toTexts entries
  | .textMapping, other => .error (mismatch "mapping" other)
  | .list item, .sequence items => items.mapM item.convert
  | .list _, other => .error (mismatch "sequence" other)

end Target

end TaggedConfig
