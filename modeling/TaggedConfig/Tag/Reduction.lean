import TaggedConfig.Number.Integer
import TaggedConfig.Tag.Argument

/-!
# Sums, products and joined texts

A sum or a product is taken over the numbers of a sequence, those of nested sequences included, from
left to right.  Integers stay integers as long as no number with a fraction has come before, and
their total has to fit into 64 bits after every step.
-/

namespace TaggedConfig

/-- A number of either kind. -/
inductive Number where
  | integer (value : Int64)
  | float (value : Binary64)
  deriving Inhabited, Repr

namespace Number

def toFloat : Number → Binary64
  | .integer value => .ofInt value.toInt
  | .float value => value

def toValue : Number → Value
  | .integer value => .integer value
  | .float value => .float value

def ofValue? : Value → Option Number
  | .integer value => some (.integer value)
  | .float value => some (.float value)
  | _ => none

end Number

namespace Value

mutual

/-- What is left of a value when nested sequences are unfolded. -/
def leaves : Value → List Value
  | .sequence items => leavesOfItems items
  | .null => [.null]
  | .bool value => [.bool value]
  | .integer value => [.integer value]
  | .float value => [.float value]
  | .string text => [.string text]
  | .mapping entries => [.mapping entries]

def leavesOfItems : List Value → List Value
  | [] => []
  | item :: rest => item.leaves ++ leavesOfItems rest

end

end Value

/-- A way to combine numbers, for integers and for numbers with a fraction. -/
structure Reduction where
  tag : Tag
  neutral : Int64
  integers : Int → Int → Int
  floats : Binary64 → Binary64 → Binary64

namespace Reduction

def sum : Reduction := ⟨.sum, 0, (· + ·), .add⟩

def product : Reduction := ⟨.product, 1, (· * ·), .mul⟩

def step (reduction : Reduction) : Number → Number → Except Cause Number
  | .integer a, .integer b =>
      match int64? (reduction.integers a.toInt b.toInt) with
      | some value => .ok (.integer value)
      | none => .error (.arithmeticOverflow reduction.tag.name)
  | a, b => .ok (.float (reduction.floats a.toFloat b.toFloat))

/-- Combine numbers from left to right. -/
def total (reduction : Reduction) (numbers : List Number) : Except Cause Number :=
  numbers.foldlM reduction.step (.integer reduction.neutral)

def numberOf (reduction : Reduction) (leaf : Value) : Except Cause Number :=
  match Number.ofValue? leaf with
  | some number => .ok number
  | none => .error (reduction.tag.mismatch (.noNumber leaf))

/-- The total of a sequence; every leaf is looked at before the first step. -/
def apply (reduction : Reduction) (input : Value) : Except Cause Value := do
  let items ← reduction.tag.sequenceItems input
  let numbers ← (Value.leavesOfItems items).mapM reduction.numberOf
  return (← reduction.total numbers).toValue

end Reduction

namespace Value

def sum (input : Value) : Except Cause Value := Reduction.sum.apply input

def product (input : Value) : Except Cause Value := Reduction.product.apply input

def join (input : Value) : Except Cause Value := do
  let items ← Tag.join.sequenceItems input
  return .string (String.join (items.map display))

end Value

end TaggedConfig
